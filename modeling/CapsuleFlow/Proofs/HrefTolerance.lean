import CapsuleFlow.Proofs.TextSplitting

/-!
# Tolerant reading of HREF lines

Reading an HREF line looks only at whether the trimmed line starts with the prefix and at
the tokens after it (`Href.parse_eq`). A token that starts like no key and like no head item
changes nothing, wherever it stands (`Href.parse_tolerant`): outside a head it is skipped,
and inside one it joins the head's tokens and is then read as no item.

The proof follows the scan. Two scans are alike when they agree on every part but the
head's tokens and read those tokens into one head (`HrefScan.Alike`). Each token keeps two
alike scans alike, since a key either keeps both heads or starts both afresh, and any other
token either joins both heads or neither. Scanning an ignorable token leaves a scan alike to
what it was; inserting one anywhere in the tokens therefore ends in an alike scan, and alike
scans give one reference.
-/

namespace CapsuleFlow

/-- The tokens an HREF line is read from: those after the prefix of the trimmed line, or
none when the prefix is missing. -/
def Href.lineTokens (line : String) : Option (List String) :=
  (afterPrefix (Text.trim line) hrefPrefix).map Text.words

/-- What a token must not start with to be ignored: a key, or the symbol of a head item. -/
def hrefMarkers : List String := hrefKeys ++ ["λ", "π", "ε", "HP=", "mode=", "OHI="]

/-- The head that head tokens read as: the items in order, empty tokens left out. -/
def headOf (bits : List String) : HrefHead := (bits.filter (!·.isEmpty)).foldl readHeadItem {}

theorem headOf_append_singleton (bits : List String) (t : String) :
    headOf (bits ++ [t]) = if t.isEmpty then headOf bits else readHeadItem (headOf bits) t := by
  cases ht : t.isEmpty <;> simp [headOf, List.filter_append, ht]

/-- The reference a finished scan gives: none without a non-empty `comp`, `pc` and `cap`. -/
def HrefScan.finish (s : HrefScan) : Option Href := do
  let nonEmpty (o : Option String) : Option String := o.filter (!·.isEmpty)
  return { comp := ← nonEmpty s.comp, pc := ← nonEmpty s.pc, cap := ← nonEmpty s.cap
           head := headOf s.head, hot := s.hot }

/-- Reading a line is scanning its tokens and finishing the scan. -/
theorem Href.parse_eq (line : String) :
    Href.parse line = (Href.lineTokens line).bind fun ts => (ts.foldl HrefScan.step {}).finish := by
  unfold Href.parse Href.lineTokens
  cases afterPrefix (Text.trim line) hrefPrefix <;> rfl

theorem isHrefKey_eq_false {t : String} (ht : ∀ k ∈ hrefMarkers, t.startsWith k = false) :
    isHrefKey t = false := by
  rw [isHrefKey, List.any_eq_false]
  exact fun k hk => by simp [ht k (List.mem_append_left _ hk)]

theorem readHeadItem_eq_self {t : String} (ht : ∀ k ∈ hrefMarkers, t.startsWith k = false)
    (g : HrefHead) : readHeadItem g t = g := by
  have hnone : ∀ k ∈ ["λ", "π", "ε", "HP=", "mode=", "OHI="], afterPrefix t k = none :=
    fun k hk => by rw [afterPrefix, ht k (List.mem_append_right _ hk), if_neg Bool.false_ne_true]
  simp [readHeadItem, hnone]

namespace HrefScan

/-- Two scans that agree on every part but the head's tokens, which read as one head. -/
structure Alike (s s' : HrefScan) : Prop where
  comp : s.comp = s'.comp
  pc : s.pc = s'.pc
  cap : s.cap = s'.cap
  hot : s.hot = s'.hot
  inHead : s.inHead = s'.inHead
  head : headOf s.head = headOf s'.head

variable {s s' : HrefScan}

theorem Alike.refl (s : HrefScan) : s.Alike s := ⟨rfl, rfl, rfl, rfl, rfl, rfl⟩

theorem Alike.finish_eq (h : s.Alike s') : s.finish = s'.finish := by
  simp only [finish, h.comp, h.pc, h.cap, h.hot, h.head]

theorem Alike.step (h : s.Alike s') (t : String) : (s.step t).Alike (s'.step t) := by
  unfold HrefScan.step
  rw [h.inHead]
  split
  · repeat' split
    all_goals exact ⟨by simp [h.comp], by simp [h.pc], by simp [h.cap], by simp [h.hot], rfl,
      by simp [h.head]⟩
  · split
    · exact ⟨h.comp, h.pc, h.cap, h.hot, rfl, by simp [headOf_append_singleton, h.head]⟩
    · exact h

theorem Alike.foldl (h : s.Alike s') (ts : List String) :
    (ts.foldl HrefScan.step s).Alike (ts.foldl HrefScan.step s') := by
  induction ts generalizing s s' with
  | nil => exact h
  | cons t ts ih => exact ih (h.step t)

theorem alike_step_unmarked {t : String} (ht : ∀ k ∈ hrefMarkers, t.startsWith k = false)
    (s : HrefScan) : (s.step t).Alike s := by
  unfold HrefScan.step
  simp only [isHrefKey_eq_false ht, Bool.false_eq_true, if_false]
  split
  · exact ⟨rfl, rfl, rfl, rfl, rfl, by
      rw [headOf_append_singleton]; split <;> simp [readHeadItem_eq_self ht]⟩
  · exact Alike.refl s

theorem alike_foldl_insertIdx {t : String} (ht : ∀ k ∈ hrefMarkers, t.startsWith k = false)
    (ts : List String) (i : Nat) (s : HrefScan) :
    ((ts.insertIdx i t).foldl step s).Alike (ts.foldl step s) := by
  induction ts generalizing i s with
  | nil =>
    cases i with
    | zero => exact (alike_step_unmarked ht s).foldl []
    | succ i => exact Alike.refl s
  | cons x xs ih =>
    cases i with
    | zero => exact (alike_step_unmarked ht s).foldl (x :: xs)
    | succ i =>
      rw [List.insertIdx_succ_cons, List.foldl_cons, List.foldl_cons]
      exact ih i (s.step x)

end HrefScan

/-- Reading an HREF line is tolerant: the reference depends only on the tokens after the
prefix of the trimmed line (and on whether that prefix is there), and a token that starts
with no key and no head-item symbol, inserted anywhere among those tokens, changes
nothing. -/
theorem Href.parse_tolerant :
    (∀ line line', Href.lineTokens line = Href.lineTokens line' →
      Href.parse line = Href.parse line') ∧
    ∀ line line' ts i t, Href.lineTokens line = some ts →
      Href.lineTokens line' = some (ts.insertIdx i t) →
      (∀ k ∈ hrefMarkers, t.startsWith k = false) → Href.parse line' = Href.parse line := by
  refine ⟨fun line line' h => by rw [Href.parse_eq, Href.parse_eq, h], ?_⟩
  intro line line' ts i t hts hts' ht
  rw [Href.parse_eq, Href.parse_eq, hts, hts', Option.bind_some, Option.bind_some]
  exact (HrefScan.alike_foldl_insertIdx ht ts i {}).finish_eq

end CapsuleFlow
