import Mathlib
import CapsuleFlow.Href

/-!
# Splitting text into words and pieces

The line formats read text three ways: at one separator character (`String.splitOn`),
into the runs between white space (`Text.words`), and by cutting a known prefix
(`afterPrefix`). This module says what each gives on text written as pieces joined by
their separator.

`String.splitOn` walks byte positions; `splitOn_singleton` brings a one-character
separator down to `List.splitOn` on the characters, after the position-by-position
argument Batteries gives for `String.split`. A `Text.Word` is a non-empty text with no
white space; words written each after one space (`Text.spaced`) split back into exactly
those words (`Text.words_spaced`), and such a text is its own trim.
-/

namespace CapsuleFlow

/-! ## One separator character -/

theorem splitOnAux_singleton (c : Char) (l m r : List Char) (acc : List String) :
    String.splitOnAux (String.ofList (l ++ m ++ r)) (String.singleton c) ⟨String.utf8Len l⟩
        ⟨String.utf8Len l + String.utf8Len m⟩ 0 acc =
      acc.reverse ++ (List.splitOnPPrepend (· == c) r m.reverse).map String.ofList := by
  unfold String.splitOnAux
  simp only [List.append_assoc, String.atEnd_iff, String.rawEndPos_ofList, String.utf8Len_append,
    String.Pos.Raw.mk_le_mk, Nat.add_le_add_iff_left,
    (by omega : String.utf8Len m + String.utf8Len r ≤ String.utf8Len m ↔ String.utf8Len r = 0),
    String.utf8Len_eq_zero]
  split
  · subst r
    simpa using String.extract_of_valid l m []
  · obtain ⟨x, r, rfl⟩ := r.exists_cons_of_ne_nil ‹_›
    have hget : String.Pos.Raw.get (String.ofList (l ++ (m ++ x :: r)))
        ⟨String.utf8Len l + String.utf8Len m⟩ = x := by
      simpa [-String.ofList_append] using String.get_of_valid (l ++ m) (x :: r)
    have hnext : String.Pos.Raw.next (String.ofList (l ++ (m ++ x :: r)))
        ⟨String.utf8Len l + String.utf8Len m⟩ =
          ⟨String.utf8Len l + String.utf8Len m + x.utf8Size⟩ := by
      simpa [-String.ofList_append] using String.next_of_valid (l ++ m) x r
    have hsep : String.Pos.Raw.get (String.singleton c) 0 = c := by
      simpa using String.get_of_valid [] [c]
    have hsepNext : String.Pos.Raw.next (String.singleton c) 0 = ⟨c.utf8Size⟩ := by
      simpa using String.next_of_valid [] c []
    have hend : (String.singleton c).rawEndPos = ⟨c.utf8Size⟩ := by
      rw [String.singleton_eq_ofList, String.rawEndPos_ofList]
      simp
    simp only [hget, hsep, String.Pos.Raw.unoffsetBy_zero, hnext, hsepNext, hend]
    split <;> rename_i h
    · have hxc : x = c := by simpa using h
      subst hxc
      have hext : String.Pos.Raw.extract (String.ofList (l ++ (m ++ x :: r))) ⟨String.utf8Len l⟩
          ((⟨String.utf8Len l + String.utf8Len m + x.utf8Size⟩ : String.Pos.Raw).unoffsetBy
            ⟨x.utf8Size⟩) = String.ofList m := by
        simpa [String.Pos.Raw.unoffsetBy, -String.ofList_append] using
          String.extract_of_valid l m (x :: r)
      rw [hext]
      simpa [Nat.add_assoc, List.splitOnPPrepend_cons_eq_if] using
        splitOnAux_singleton x (l ++ m ++ [x]) [] r (String.ofList m :: acc)
    · simpa [List.splitOnPPrepend_cons_eq_if, h, Nat.add_assoc, String.Pos.Raw.unoffsetBy] using
        splitOnAux_singleton c l (m ++ [x]) r acc

/-- Splitting at a one-character separator splits the characters. -/
theorem splitOn_singleton (s : String) (c : Char) :
    s.splitOn (String.singleton c) = (s.toList.splitOn c).map String.ofList := by
  have h := splitOnAux_singleton c [] [] s.toList []
  simp only [List.append_nil, List.nil_append, String.ofList_toList, String.utf8Len_nil,
    Nat.add_zero, List.reverse_nil] at h
  rw [String.splitOn, if_neg (by simp [String.singleton_ne_empty]),
    List.splitOn_eq_splitOnP, List.splitOnP_eq_splitOnPPrepend]
  exact h

/-! ## Prefixes -/

theorem afterPrefix_append (p s : String) : afterPrefix (p ++ s) p = some s := by
  have hpre : p.toList <+: (p ++ s).toList := by simp
  rw [afterPrefix, if_pos (String.startsWith_string_iff.mpr hpre)]
  apply congrArg some
  apply String.toList_inj.mp
  rw [show ((p ++ s).drop p.length).toString = ((p ++ s).drop p.length).copy from rfl,
    String.toList_copy_drop, String.toList_append, ← String.length_toList, List.drop_left]

theorem afterPrefix_eq_none {s p : String} (h : ¬ p.toList <+: s.toList) :
    afterPrefix s p = none := by
  rw [afterPrefix, if_neg (fun hs => h (String.startsWith_string_iff.mp hs))]

theorem endsWith_append (t p : String) : (t ++ p).endsWith p = true := by
  rw [String.endsWith_eq_endsWith_toSlice, String.Slice.endsWith_string_iff]
  simp

theorem dropEnd_append_singleton (t : String) (c : Char) :
    ((t ++ String.singleton c).dropEnd 1).toString = t := by
  apply String.toList_inj.mp
  rw [show ((t ++ String.singleton c).dropEnd 1).toString =
    ((t ++ String.singleton c).dropEnd 1).copy from rfl, String.toList_copy_dropEnd]
  simp

/-! ## Joined pieces -/

theorem mem_of_mem_intercalate {α : Type} {sep : List α} {l : List (List α)} {c : α}
    (h : c ∈ sep.intercalate l) : c ∈ sep ∨ ∃ x ∈ l, c ∈ x := by
  induction l with
  | nil => simp at h
  | cons x xs ih =>
    cases xs with
    | nil => exact Or.inr ⟨x, by simp, by simpa using h⟩
    | cons y ys =>
      rw [List.intercalate_cons_cons] at h
      rcases List.mem_append.mp h with h | h
      · rcases List.mem_append.mp h with h | h
        · exact Or.inr ⟨x, by simp, h⟩
        · exact Or.inl h
      · rcases ih h with h | ⟨z, hz, hc⟩
        · exact Or.inl h
        · exact Or.inr ⟨z, List.mem_cons_of_mem x hz, hc⟩

/-! ## Words -/

namespace Text

/-- A non-empty text without white space: what `words` cuts a text into. -/
structure Word (s : String) : Prop where
  ne_nil : s.toList ≠ []
  no_space : ∀ c ∈ s.toList, isSpace c = false

theorem word_of_all {p : String}
    (h : p.toList ≠ [] ∧ p.toList.all (fun c => !isSpace c) = true) : Word p :=
  ⟨h.1, fun c hc => by simpa using List.all_eq_true.mp h.2 c hc⟩

theorem Word.isEmpty_eq_false {s : String} (hs : Word s) : s.isEmpty = false := by
  rw [String.isEmpty_eq_false_iff]
  rintro rfl
  exact hs.ne_nil rfl

theorem Word.append {p s : String} (hp : Word p) (hs : ∀ c ∈ s.toList, isSpace c = false) :
    Word (p ++ s) where
  ne_nil := by simp [hp.ne_nil]
  no_space c hc := by
    rcases List.mem_append.mp (by simpa using hc) with hc | hc
    · exact hp.no_space c hc
    · exact hs c hc

/-- Texts written one after another, each after one space. -/
def spaced (ts : List String) : List Char := (ts.map fun t => ' ' :: t.toList).flatten

theorem spaced_cons (t : String) (ts : List String) :
    spaced (t :: ts) = ' ' :: (t.toList ++ spaced ts) := by
  simp [spaced]

theorem intercalate_space (x : List Char) (xs : List (List Char)) :
    [' '].intercalate (x :: xs) = x ++ (xs.map (' ' :: ·)).flatten := by
  induction xs generalizing x with
  | nil => simp
  | cons y ys ih => simp [List.intercalate_cons_cons, ih]

theorem splitOnP_word_spaced {t : String} {ts : List String} (ht : Word t)
    (hts : ∀ u ∈ ts, Word u) :
    (t.toList ++ spaced ts).splitOnP isSpace = (t :: ts).map String.toList := by
  induction ts generalizing t with
  | nil => simpa [spaced] using List.splitOnP_eq_singleton ht.no_space
  | cons u us ih =>
    rw [spaced_cons, List.splitOnP_append_cons_of_forall_mem ht.no_space _ (by decide),
      ih (hts u (by simp)) (fun v hv => hts v (by simp [hv]))]
    rfl

/-- Words written each after a space read back as themselves. -/
theorem words_spaced {ts : List String} (hts : ∀ t ∈ ts, Word t) :
    words (String.ofList (spaced ts)) = ts := by
  have hsplit : (String.ofList (spaced ts)).toList.splitOnP isSpace =
      [] :: ts.map String.toList := by
    cases ts with
    | nil => rfl
    | cons t ts =>
      rw [String.toList_ofList, spaced_cons, List.splitOnP_cons_eq_if_modifyHead,
        if_pos (by decide),
        splitOnP_word_spaced (hts t (by simp)) (fun u hu => hts u (by simp [hu]))]
  have hkeep : ∀ t ∈ ts, (!t.isEmpty) = true := fun t ht => by
    rw [(hts t ht).isEmpty_eq_false, Bool.not_false]
  unfold words
  rw [show (fun s : String.Slice => s.toString) = String.Slice.copy from rfl,
    String.toList_split_bool, hsplit]
  simp only [List.map_cons, List.map_map, Function.comp_def, String.ofList_toList, List.map_id']
  rw [List.filter_cons_of_neg (by simp), List.filter_eq_self.mpr hkeep]

theorem dropWhile_space_eq_self {l : List Char} (h : ∀ c ∈ l.head?, isSpace c = false) :
    l.dropWhile isSpace = l := by
  cases l with
  | nil => rfl
  | cons c cs => exact List.dropWhile_cons_of_neg (by simp [h c rfl])

theorem trim_eq_self {s : String} (hhead : ∀ c ∈ s.toList.head?, isSpace c = false)
    (hlast : ∀ c ∈ s.toList.getLast?, isSpace c = false) : trim s = s := by
  have hback : s.toList.reverse.dropWhile isSpace = s.toList.reverse :=
    dropWhile_space_eq_self (by rw [List.head?_reverse]; exact hlast)
  rw [trim, dropWhile_space_eq_self hhead, hback, List.reverse_reverse, String.ofList_toList]

theorem Word.trim_eq {s : String} (hs : Word s) : trim s = s :=
  trim_eq_self (fun c hc => hs.no_space c (List.mem_of_head? hc))
    (fun c hc => hs.no_space c (List.mem_of_getLast? hc))

theorem getLast?_append_spaced {l : List Char} {ts : List String}
    (hl : ∀ c ∈ l.getLast?, isSpace c = false) (hts : ∀ t ∈ ts, Word t) :
    ∀ c ∈ (l ++ spaced ts).getLast?, isSpace c = false := by
  induction ts generalizing l with
  | nil => simpa [spaced] using hl
  | cons t ts ih =>
    have ht := hts t (by simp)
    have hlast : ∀ c ∈ (l ++ ' ' :: t.toList).getLast?, isSpace c = false := by
      intro c hc
      obtain ⟨x, xs, hx⟩ := List.exists_cons_of_ne_nil ht.ne_nil
      rw [List.getLast?_append, hx, List.getLast?_cons_cons, ← hx] at hc
      cases hy : t.toList.getLast? with
      | none => exact absurd (List.getLast?_eq_none_iff.mp hy) ht.ne_nil
      | some y =>
        rw [hy, Option.some_or, Option.mem_def, Option.some.injEq] at hc
        exact ht.no_space c (hc ▸ List.mem_of_getLast? hy)
    rw [spaced_cons, ← List.cons_append, ← List.append_assoc]
    exact ih hlast (fun u hu => hts u (by simp [hu]))

theorem trim_word_spaced {p : String} {ts : List String} (hp : Word p)
    (hts : ∀ t ∈ ts, Word t) :
    trim (p ++ String.ofList (spaced ts)) = p ++ String.ofList (spaced ts) := by
  obtain ⟨x, xs, hx⟩ := List.exists_cons_of_ne_nil hp.ne_nil
  apply trim_eq_self
  · simp only [String.toList_append, String.toList_ofList, hx, List.cons_append,
      List.head?_cons, Option.mem_def, Option.some.injEq]
    rintro c rfl
    exact hp.no_space x (by simp [hx])
  · simp only [String.toList_append, String.toList_ofList]
    exact getLast?_append_spaced (fun c hc => hp.no_space c (List.mem_of_getLast? hc)) hts

end Text

end CapsuleFlow
