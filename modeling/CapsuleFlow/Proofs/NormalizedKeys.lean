import Mathlib
import CapsuleFlow.Canonical

/-!
# Normalization keeps keys and non-empty texts

Normalization Form C empties no text (`nfc_eq_empty_iff`), and it makes a key of plain key
letters, lowercase ASCII letters and the underscore, out of that key alone
(`CanonicalOptions.text_eq_plain_iff`). So the members a reader looks up by such a name,
after canonicalization, are the members of that name, and a non-empty string stays non-empty.

A text whose characters all lie below U+0300 is its own normal form; any other is decomposed,
reordered and composed again. Decomposition leaves something of each character, reordering
only moves marks (`reorder_perm`), and the composer keeps each character it is given or the
composite that absorbed it (`Composer.push_cases`). So a member of a class of characters
survives whenever the composites of a member belong to the class (`compose_keeps`): any
character at all, and any character that is no plain key letter, since no decomposition of
the tables is made of plain key letters alone and no composite is one. These two facts of the
tables are checked by evaluation.
-/

namespace CapsuleFlow.Text

/-! ## Plain key letters -/

/-- The code of a plain key letter: a lowercase ASCII letter or the underscore. -/
def plainCode (n : Nat) : Bool := n == 95 || (97 ≤ n && n ≤ 122)

/-- A plain key letter. -/
def isPlain (c : Char) : Bool := plainCode c.toNat

theorem isPlain_ofNat {n : Nat} (h : plainCode n = false) : isPlain (Char.ofNat n) = false := by
  unfold isPlain
  rw [Char.toNat_ofNat]
  split
  · exact h
  · rfl

theorem plainCode_of_le {n : Nat} (hn : 0x80 ≤ n) : plainCode n = false := by
  simp only [plainCode, Bool.or_eq_false_iff, beq_eq_false_iff_ne, ne_eq, Bool.and_eq_false_imp,
    decide_eq_true_eq, decide_eq_false_iff_not, Nat.not_le]
  omega

theorem toNat_lt_of_isPlain {c : Char} (h : isPlain c = true) : c.toNat < 0x80 := by
  simp only [isPlain, plainCode, Bool.or_eq_true, beq_iff_eq, Bool.and_eq_true,
    decide_eq_true_eq] at h
  omega

/-- No decomposition of the table is made of plain key letters alone, and no composite of the
table is a plain key letter. The two tables are checked in one declaration, one after the
other. -/
theorem tables_unplain :
    decompositionTable.all (fun e => e.2.any fun n => !plainCode n) = true ∧
      compositeTable.all (fun e => !plainCode e.2.2) = true := by
  constructor
  · decide +kernel
  · decide +kernel

theorem decompositionTable_unplain :
    decompositionTable.all (fun e => e.2.any fun n => !plainCode n) = true :=
  tables_unplain.1

theorem compositeTable_unplain : compositeTable.all (fun e => !plainCode e.2.2) = true :=
  tables_unplain.2

/-! ## Table lookups -/

theorem lastAtMost_go_mem {α : Type} [Inhabited α] {arr : Array α} {key : α → Nat} {k : Nat} :
    ∀ (fuel lo hi : Nat) (best : Option α) {x : α}, hi ≤ arr.size →
      (∀ b, best = some b → b ∈ arr) → lastAtMost.go arr key k lo hi fuel best = some x → x ∈ arr
  | 0, _, _, _, x, _, hbest, h => hbest x h
  | fuel + 1, lo, hi, best, x, hhi, hbest, h => by
    simp only [lastAtMost.go] at h
    split at h
    · next hlt =>
      have hmid : (lo + hi) / 2 < arr.size := by omega
      have hget : arr[(lo + hi) / 2]! ∈ arr := by
        rw [getElem!_pos arr _ hmid]
        exact Array.getElem_mem hmid
      split at h
      · exact lastAtMost_go_mem fuel _ _ _ hhi (fun b hb => by cases hb; exact hget) h
      · exact lastAtMost_go_mem fuel _ _ _ (by omega) hbest h
    · exact hbest x h

theorem lastAtMost_mem {α : Type} [Inhabited α] {arr : Array α} {key : α → Nat} {k : Nat} {x : α}
    (h : lastAtMost arr key k = some x) : x ∈ arr :=
  lastAtMost_go_mem _ _ _ _ (Nat.le_refl _) (fun _ hb => by cases hb) h

/-! ## Decomposition and composition -/

theorem composePair?_unplain {a b r : Char} (h : composePair? a b = some r) : isPlain r = false := by
  unfold composePair? at h
  dsimp only at h
  have hbase : 0x80 ≤ hangulBase := by decide
  split at h
  · rw [← Option.some_inj.mp h]
    exact isPlain_ofNat (plainCode_of_le (Nat.le_trans hbase (Nat.le_add_right _ _)))
  · split at h
    · next hx =>
      rw [← Option.some_inj.mp h]
      simp only [Bool.and_eq_true, decide_eq_true_eq] at hx
      exact isPlain_ofNat (plainCode_of_le
        (Nat.le_trans (Nat.le_trans hbase hx.1.1.1.1) (Nat.le_add_right _ _)))
    · split at h
      · next k' c hlook =>
        split at h
        · rw [← Option.some_inj.mp h]
          obtain ⟨e, he, hfe⟩ := List.mem_map.mp (List.mem_toArray.mp (lastAtMost_mem hlook))
          have hc := List.all_eq_true.mp compositeTable_unplain e he
          rw [congrArg Prod.snd hfe] at hc
          exact isPlain_ofNat (by simpa using hc)
        · cases h
      · cases h

theorem exists_unplain_decomposeChar {c : Char} (h : isPlain c = false) :
    ∃ d ∈ decomposeChar c, isPlain d = false := by
  unfold decomposeChar
  dsimp only
  split
  · refine ⟨Char.ofNat (leadBase + (c.toNat - hangulBase) / (vowelCount * trailCount)), ?_,
      isPlain_ofNat (plainCode_of_le (Nat.le_trans (by decide) (Nat.le_add_right _ _)))⟩
    split <;> simp
  · split
    · exact ⟨c, List.mem_singleton_self c, h⟩
    · split
      · next k d hlook =>
        split
        · have hmem := List.mem_toArray.mp (lastAtMost_mem hlook)
          obtain ⟨m, hm, hpm⟩ :=
            List.any_eq_true.mp (List.all_eq_true.mp decompositionTable_unplain _ hmem)
          exact ⟨Char.ofNat m, List.mem_map_of_mem hm, isPlain_ofNat (by simpa using hpm)⟩
        · exact ⟨c, List.mem_singleton_self c, h⟩
      · exact ⟨c, List.mem_singleton_self c, h⟩

theorem decomposeChar_ne_nil (c : Char) : decomposeChar c ≠ [] := by
  cases hp : isPlain c with
  | false =>
    obtain ⟨d, hd, -⟩ := exists_unplain_decomposeChar hp
    exact List.ne_nil_of_mem hd
  | true =>
    have hlt := toNat_lt_of_isPlain hp
    unfold decomposeChar
    have hh : (hangulBase ≤ c.toNat && c.toNat < hangulBase + syllableCount) = false := by
      simp only [Bool.and_eq_false_imp, decide_eq_true_eq, decide_eq_false_iff_not, Nat.not_lt]
      intro hc
      exact absurd (Nat.lt_of_le_of_lt hc hlt) (by decide)
    simp [hh, show c.toNat < 0xC0 by omega]

/-! ## Reordering -/

theorem flush_perm (run : List Char) : (reorder.flush run).Perm run :=
  (List.reverse_perm _).trans ((List.mergeSort_perm _ _).trans (List.reverse_perm _))

theorem foldl_perm {f : List Char × List Char → Char → List Char × List Char}
    (hf : ∀ acc c, ((f acc c).2 ++ (f acc c).1).Perm (c :: (acc.2 ++ acc.1))) :
    ∀ (cs : List Char) (acc : List Char × List Char),
      ((cs.foldl f acc).2 ++ (cs.foldl f acc).1).Perm (cs.reverse ++ (acc.2 ++ acc.1))
  | [], acc => by simp
  | c :: cs, acc => by
    simp only [List.foldl_cons, List.reverse_cons, List.append_assoc, List.singleton_append]
    exact (foldl_perm hf cs (f acc c)).trans ((hf acc c).append_left cs.reverse)

/-- Canonical ordering only moves marks within their runs. -/
theorem reorder_perm (cs : List Char) : (reorder cs).Perm cs := by
  unfold reorder
  split
  next done run heq =>
    have hfold : ((done, run).2 ++ (done, run).1).Perm (cs.reverse ++ ([] ++ [])) := by
      rw [← heq]
      refine foldl_perm ?_ cs ([], [])
      rintro ⟨done, run⟩ c
      dsimp only
      split
      · simpa using ((flush_perm run).append_right done).cons c
      · exact List.Perm.refl _
    rw [List.append_nil, List.append_nil] at hfold
    exact (List.reverse_perm _).trans ((((flush_perm run).append_right done).trans hfold).trans
      (List.reverse_perm cs))

/-! ## Composition -/

/-- Everything a composer holds, in no particular order. -/
def Composer.contents (st : Composer) : List Char := st.held ++ st.starter.toList ++ st.out

theorem Composer.mem_finish {st : Composer} {x : Char} : x ∈ st.finish ↔ x ∈ st.contents := by
  cases h : st.starter <;> simp [Composer.finish, Composer.contents, h] <;> tauto

/-- What one character does to a composer: it is kept, or the starter and it give way to their
composite. -/
theorem Composer.push_cases (st : Composer) (c : Char) :
    (∀ x, x ∈ (st.push c).contents ↔ x = c ∨ x ∈ st.contents) ∨
    ∃ s r, st.starter = some s ∧ composePair? s c = some r ∧
      ∀ x, x ∈ (st.push c).contents ↔ x = r ∨ x ∈ st.held ∨ x ∈ st.out := by
  obtain ⟨out, starter, held, lastClass⟩ := st
  unfold Composer.push
  cases starter with
  | none =>
    left
    dsimp only
    split <;> intro x <;> simp [Composer.contents] <;> tauto
  | some s =>
    dsimp only
    cases lastClass with
    | none =>
      dsimp only
      split
      · next r hr => exact .inr ⟨s, r, rfl, hr, fun x => by simp [Composer.contents]; tauto⟩
      · left
        split <;> intro x <;> simp [Composer.contents]
        tauto
    | some l =>
      dsimp only
      split
      · left
        split <;> intro x <;> simp [Composer.contents]
      · split
        · next r hr => exact .inr ⟨s, r, rfl, hr, fun x => by simp [Composer.contents]; tauto⟩
        · left
          intro x
          simp [Composer.contents]

section Keeps

variable {P : Char → Prop}

/-- Composition keeps a class of characters when a composite belongs to it as soon as one of
its two parts does. -/
def ComposeKeeps (P : Char → Prop) : Prop :=
  ∀ s c r, composePair? s c = some r → P s ∨ P c → P r

theorem Composer.push_keeps (hP : ComposeKeeps P) (st : Composer) (c : Char)
    (h : P c ∨ ∃ x ∈ st.contents, P x) : ∃ x ∈ (st.push c).contents, P x := by
  rcases Composer.push_cases st c with hkeep | ⟨s, r, hs, hr, hmem⟩
  · rcases h with hc | ⟨x, hx, hpx⟩
    · exact ⟨c, (hkeep c).mpr (.inl rfl), hc⟩
    · exact ⟨x, (hkeep x).mpr (.inr hx), hpx⟩
  · have hrP : P s ∨ P c → P r := hP s c r hr
    rcases h with hc | ⟨x, hx, hpx⟩
    · exact ⟨r, (hmem r).mpr (.inl rfl), hrP (.inr hc)⟩
    · simp only [Composer.contents, hs, Option.toList_some, List.mem_append, List.mem_singleton]
        at hx
      rcases hx with (hx | rfl) | hx
      · exact ⟨x, (hmem x).mpr (.inr (.inl hx)), hpx⟩
      · exact ⟨r, (hmem r).mpr (.inl rfl), hrP (.inl hpx)⟩
      · exact ⟨x, (hmem x).mpr (.inr (.inr hx)), hpx⟩

theorem Composer.foldl_keeps (hP : ComposeKeeps P) :
    ∀ (cs : List Char) (st : Composer), ((∃ c ∈ cs, P c) ∨ ∃ x ∈ st.contents, P x) →
      ∃ x ∈ (cs.foldl Composer.push st).contents, P x
  | [], _, h => by simpa using h
  | c :: cs, st, h => by
    refine Composer.foldl_keeps hP cs (st.push c) ?_
    rcases h with ⟨d, hd, hpd⟩ | hst
    · rcases List.mem_cons.mp hd with rfl | hd
      · exact .inr (Composer.push_keeps hP st d (.inl hpd))
      · exact .inl ⟨d, hd, hpd⟩
    · exact .inr (Composer.push_keeps hP st c (.inr hst))

/-- Composing keeps a member of a class that composition keeps. -/
theorem compose_keeps (hP : ComposeKeeps P) {cs : List Char} (h : ∃ c ∈ cs, P c) :
    ∃ x ∈ compose cs, P x := by
  obtain ⟨x, hx, hpx⟩ := Composer.foldl_keeps hP cs {} (.inl h)
  exact ⟨x, Composer.mem_finish.mpr hx, hpx⟩

end Keeps

theorem composeKeeps_unplain : ComposeKeeps fun c => isPlain c = false :=
  fun _ _ _ hr _ => composePair?_unplain hr

/-! ## Normalization Form C -/

theorem nfc_of_all_below {s : String} (h : s.all (fun c : Char => c.toNat < 0x300) = true) :
    nfc s = s := by
  unfold nfc
  rw [if_pos h]

theorem nfc_of_not_all_below {s : String} (h : s.all (fun c : Char => c.toNat < 0x300) = false) :
    nfc s = String.ofList (compose (reorder (s.toList.flatMap decomposeChar))) := by
  unfold nfc
  rw [if_neg (by simp [h])]

theorem exists_unplain_nfc {s : String} (h : ∃ c ∈ s.toList, isPlain c = false) :
    ∃ c ∈ (nfc s).toList, isPlain c = false := by
  cases hall : s.all (fun c : Char => c.toNat < 0x300) with
  | true => rwa [nfc_of_all_below hall]
  | false =>
    rw [nfc_of_not_all_below hall, String.toList_ofList]
    obtain ⟨c, hc, hp⟩ := h
    obtain ⟨d, hd, hpd⟩ := exists_unplain_decomposeChar hp
    have hmem : d ∈ reorder (s.toList.flatMap decomposeChar) :=
      (reorder_perm _).mem_iff.mpr (List.mem_flatMap.mpr ⟨c, hc, hd⟩)
    exact compose_keeps composeKeeps_unplain ⟨d, hmem, hpd⟩

theorem nfc_of_plain {s : String} (h : s.toList.all isPlain = true) : nfc s = s := by
  apply nfc_of_all_below
  rw [String.all_prop_eq]
  refine List.all_eq_true.mpr fun c hc => ?_
  simpa using Nat.lt_trans (toNat_lt_of_isPlain (List.all_eq_true.mp h c hc)) (by decide)

theorem plain_of_nfc_plain {s : String} (h : (nfc s).toList.all isPlain = true) :
    s.toList.all isPlain = true := by
  refine List.all_eq_true.mpr fun c hc => ?_
  cases hp : isPlain c with
  | true => rfl
  | false =>
    obtain ⟨x, hx, hpx⟩ := exists_unplain_nfc ⟨c, hc, hp⟩
    rw [List.all_eq_true.mp h x hx] at hpx
    cases hpx

/-- Normalization empties no text. -/
theorem nfc_eq_empty_iff {s : String} : nfc s = "" ↔ s = "" := by
  constructor
  · intro h
    cases hall : s.all (fun c : Char => c.toNat < 0x300) with
    | true => rwa [nfc_of_all_below hall] at h
    | false =>
      rw [nfc_of_not_all_below hall] at h
      obtain ⟨c, hc⟩ : ∃ c, c ∈ s.toList := by
        cases hs : s.toList with
        | nil => simp [hs] at hall
        | cons c _ => exact ⟨c, List.mem_cons_self⟩
      obtain ⟨d, hd⟩ := List.exists_mem_of_ne_nil _ (decomposeChar_ne_nil c)
      have hmem : d ∈ reorder (s.toList.flatMap decomposeChar) :=
        (reorder_perm _).mem_iff.mpr (List.mem_flatMap.mpr ⟨c, hc, hd⟩)
      obtain ⟨x, hx, -⟩ := compose_keeps (P := fun _ => True) (fun _ _ _ _ _ => trivial) ⟨d, hmem, trivial⟩
      have := congrArg String.toList h
      rw [String.toList_ofList] at this
      simp [this] at hx
  · rintro rfl
    exact nfc_of_all_below (by simp)

end CapsuleFlow.Text

namespace CapsuleFlow

theorem CanonicalOptions.text_eq_empty_iff (o : CanonicalOptions) {s : String} :
    o.text s = "" ↔ s = "" := by
  unfold CanonicalOptions.text
  split
  · exact Text.nfc_eq_empty_iff
  · exact Iff.rfl

/-- A key of plain key letters is normalized from itself alone. -/
theorem CanonicalOptions.text_eq_plain_iff (o : CanonicalOptions) {k key : String}
    (hkey : key.toList.all Text.isPlain = true) : o.text k = key ↔ k = key := by
  unfold CanonicalOptions.text
  split
  · constructor
    · intro h
      rw [← h] at hkey ⊢
      exact (Text.nfc_of_plain (Text.plain_of_nfc_plain hkey)).symm
    · rintro rfl
      exact Text.nfc_of_plain hkey
  · exact Iff.rfl

end CapsuleFlow
