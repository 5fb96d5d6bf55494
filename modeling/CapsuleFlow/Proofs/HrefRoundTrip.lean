import CapsuleFlow.Proofs.TextSplitting
import CapsuleFlow.Proofs.NumberText

/-!
# Reading an HREF line back

`Href.line` writes a reference as its prefix and a run of tokens, each after one space
(`Href.tokens`): `comp=`, `pc=` and `cap=` with their names, the head items with `head=`
before the first, and the hot entries joined by commas. `Href.parse` trims the line, cuts
the prefix, splits the rest at white space and scans the tokens.

The round trip `Href.parse_line` holds when what the line carries survives that reading:
the three names and the hot entries are words, no hot entry holds a comma, and every head
number reads back from its written text as itself. The reader keeps the first `maxHot` hot
entries, which is all the writer writes.

Two facts carry the proof. Every head item is one word that starts with a symbol no key
starts with, so the head runs on to the hot list (`HrefHead.items_spec`). And each kind of
item sets its own field of the head, so reading the items back rebuilds the head, each
number replaced by what its text reads as (`HrefHead.read_items`).
-/

namespace CapsuleFlow

/-! ## Names and numbers as written -/

theorem isSpace_of_numberChar {c : Char} (h : numberChar c = true) : Text.isSpace c = false := by
  simp only [numberChar, Bool.or_eq_true, beq_iff_eq] at h
  rcases h with ((((((h | rfl) | rfl) | rfl) | rfl) | rfl) | rfl) | rfl
  · simp only [Char.isDigit, Bool.and_eq_true, decide_eq_true_eq, UInt32.le_iff_toNat_le] at h
    have h0 : ('0' : Char).val.toNat = 48 := rfl
    have h9 : ('9' : Char).val.toNat = 57 := rfl
    simp only [Text.isSpace, Char.toNat, Bool.or_eq_false_iff, Bool.and_eq_false_iff,
      decide_eq_false_iff_not, beq_eq_false_iff_ne]
    omega
  all_goals decide

theorem headNumber_noSpace {o : Option Float} {t : String} (h : o.bind headNumber = some t) :
    ∀ c ∈ t.toList, Text.isSpace c = false := by
  obtain ⟨x, -, hx⟩ := Option.bind_eq_some_iff.mp h
  have hcanon : canonicalNumber (.float x) 6 = .ok t := by
    unfold headNumber at hx
    split at hx
    · injection hx with hx
      subst hx
      assumption
    · cases hx
  exact fun c hc => isSpace_of_numberChar ((NumberToken.of_canonicalNumber hcanon).chars c hc)

theorem HpMode.name_noSpace (m : HpMode) : ∀ c ∈ m.name.toList, Text.isSpace c = false := by
  cases m <;> simp [Text.isSpace, HpMode.name]

theorem Mode.name_noSpace (m : Mode) : ∀ c ∈ m.name.toList, Text.isSpace c = false := by
  cases m <;> simp [Text.isSpace, Mode.name]

theorem OhiState.name_noSpace (st : OhiState) : ∀ c ∈ st.name.toList, Text.isSpace c = false := by
  cases st <;> simp [Text.isSpace, OhiState.name]

@[simp] theorem HpMode.lookup_name (m : HpMode) : lookupName HpMode.named m.name = some m := by
  cases m <;> rfl

@[simp] theorem Mode.lookup_name (m : Mode) : lookupName Mode.named m.name = some m := by
  cases m <;> rfl

theorem OhiState.name_spec (st : OhiState) :
    st.name.toList ≠ [] ∧ (st.name.toList.all fun c => c.isAlpha || c == '_') = true ∧
      '(' ∉ st.name.toList ∧ lookupName OhiState.named st.name = some st := by
  cases st <;> decide

theorem OhiState.name_accepted (st : OhiState) :
    (st.name.isEmpty || !st.name.all fun c => c.isAlpha || c == '_') = false := by
  obtain ⟨hne, hall, -, -⟩ := st.name_spec
  rw [String.all_bool_eq, hall, Bool.not_true, Bool.or_false, String.isEmpty_eq_false_iff]
  rintro h
  exact hne (by simp [h])

/-! ## The indicator -/

/-- A number as the value its written text reads back as. -/
abbrev rereadNumber (x : Option Float) : Option Float := (x.bind headNumber).bind finiteNumber?

/-- The indicator with its value read back from its text. -/
def Ohi.reread (o : Ohi) : Ohi := { o with value := rereadNumber o.value }

/-- The text after `OHI=`: the state's name, then the value in parentheses if it is written. -/
def Ohi.text (o : Ohi) : String :=
  o.state.name ++ match o.value.bind headNumber with
    | some t => "(" ++ t ++ ")"
    | none => ""

theorem parseOhi_name (st : OhiState) : parseOhi st.name = some { state := st } := by
  obtain ⟨-, -, hparen, hlookup⟩ := st.name_spec
  have hsplit : st.name.splitOn "(" = [st.name] := by
    rw [show "(" = String.singleton '(' from rfl, splitOn_singleton,
      List.splitOn_eq_singleton hparen]
    simp
  simp only [parseOhi, hsplit, pure_bind, st.name_accepted, Bool.false_eq_true, if_false, hlookup]
  rfl

theorem parseOhi_paren (st : OhiState) (t : String) :
    parseOhi (st.name ++ ("(" ++ t ++ ")")) = some { state := st, value := finiteNumber? t } := by
  obtain ⟨-, -, hparen, hlookup⟩ := st.name_spec
  have hsplit : (st.name ++ ("(" ++ t ++ ")")).splitOn "(" =
      st.name :: ((t ++ ")").toList.splitOn '(').map String.ofList := by
    rw [show "(" = String.singleton '(' from rfl, splitOn_singleton]
    simp [List.splitOn_append_cons_self_of_not_mem hparen]
  have hinner : "(".intercalate (((t ++ ")").toList.splitOn '(').map String.ofList) = t ++ ")" := by
    apply String.toList_inj.mp
    rw [String.toList_intercalate]
    simp [Function.comp_def, List.intercalate_splitOn]
  obtain ⟨r, rs, hr⟩ := List.exists_cons_of_ne_nil
    (by simp [List.splitOn_ne_nil] : ((t ++ ")").toList.splitOn '(').map String.ofList ≠ [])
  rw [hr] at hinner hsplit
  simp only [parseOhi, hsplit, hinner, endsWith_append, if_true, pure_bind, st.name_accepted,
    Bool.false_eq_true, if_false, hlookup]
  rw [show ")" = String.singleton ')' from rfl, dropEnd_append_singleton]
  rfl

theorem parseOhi_text (o : Ohi) : parseOhi o.text = some o.reread := by
  unfold Ohi.text
  cases hv : o.value.bind headNumber with
  | none =>
    rw [String.append_empty, parseOhi_name]
    simp [Ohi.reread, rereadNumber, hv]
  | some t =>
    rw [parseOhi_paren]
    simp [Ohi.reread, rereadNumber, hv]

theorem Ohi.text_noSpace (o : Ohi) : ∀ c ∈ o.text.toList, Text.isSpace c = false := by
  intro c hc
  unfold Ohi.text at hc
  cases hv : o.value.bind headNumber with
  | none =>
    rw [hv] at hc
    exact o.state.name_noSpace c (by simpa using hc)
  | some t =>
    rw [hv] at hc
    simp only [String.toList_append, List.mem_append] at hc
    rcases hc with hc | (hc | hc) | hc
    · exact o.state.name_noSpace c hc
    · simp at hc; subst hc; decide
    · exact headNumber_noSpace hv c hc
    · simp at hc; subst hc; decide

/-! ## Reading a head back -/

/-- The head with every number read back from its text. -/
def HrefHead.reread (h : HrefHead) : HrefHead :=
  { h with lambda := rereadNumber h.lambda, permeability := rereadNumber h.permeability
           entropy := rereadNumber h.entropy, ohi := h.ohi.map Ohi.reread }

/-- The numbers a head carries. -/
def HrefHead.numbers (h : HrefHead) : List Float :=
  h.lambda.toList ++ h.permeability.toList ++ h.entropy.toList ++ (h.ohi.bind (·.value)).toList

theorem readHeadItem_lambda (g : HrefHead) (v : String) :
    readHeadItem g ("λ" ++ v) = { g with lambda := finiteNumber? v } := by
  simp [readHeadItem, afterPrefix_append]

theorem readHeadItem_permeability (g : HrefHead) (v : String) :
    readHeadItem g ("π" ++ v) = { g with permeability := finiteNumber? v } := by
  simp [readHeadItem, afterPrefix_append, afterPrefix_eq_none]

theorem readHeadItem_entropy (g : HrefHead) (v : String) :
    readHeadItem g ("ε" ++ v) = { g with entropy := finiteNumber? v } := by
  simp [readHeadItem, afterPrefix_append, afterPrefix_eq_none]

theorem readHeadItem_hp (g : HrefHead) (m : HpMode) :
    readHeadItem g ("HP=" ++ m.name) = { g with hp := some m } := by
  simp [readHeadItem, afterPrefix_append, afterPrefix_eq_none]

theorem readHeadItem_mode (g : HrefHead) (m : Mode) :
    readHeadItem g ("mode=" ++ m.name) = { g with mode := some m } := by
  simp [readHeadItem, afterPrefix_append, afterPrefix_eq_none]

theorem readHeadItem_ohi (g : HrefHead) (o : Ohi) :
    readHeadItem g ("OHI=" ++ o.text) = { g with ohi := some o.reread } := by
  simp [readHeadItem, afterPrefix_append, afterPrefix_eq_none, parseOhi_text]

theorem foldl_item {α β : Type} (o : Option α) (item : α → String) (f : α → Option β)
    {g : HrefHead} (set : Option β → HrefHead) (hnone : set none = g)
    (hsome : ∀ a, readHeadItem g (item a) = set (f a)) :
    ((o.map item).toList).foldl readHeadItem g = set (o.bind f) := by
  cases o with
  | none => exact hnone.symm
  | some a => exact hsome a

section Kinds

variable {g : HrefHead}

theorem foldl_lambda (o : Option Float) (hg : g.lambda = none) :
    (((o.bind headNumber).map ("λ" ++ ·)).toList).foldl readHeadItem g =
      { g with lambda := rereadNumber o } :=
  foldl_item _ _ _ (fun v => { g with lambda := v }) (by rw [← hg]) (readHeadItem_lambda g)

theorem foldl_permeability (o : Option Float) (hg : g.permeability = none) :
    (((o.bind headNumber).map ("π" ++ ·)).toList).foldl readHeadItem g =
      { g with permeability := rereadNumber o } :=
  foldl_item _ _ _ (fun v => { g with permeability := v }) (by rw [← hg])
    (readHeadItem_permeability g)

theorem foldl_entropy (o : Option Float) (hg : g.entropy = none) :
    (((o.bind headNumber).map ("ε" ++ ·)).toList).foldl readHeadItem g =
      { g with entropy := rereadNumber o } :=
  foldl_item _ _ _ (fun v => { g with entropy := v }) (by rw [← hg]) (readHeadItem_entropy g)

theorem foldl_hp (o : Option HpMode) (hg : g.hp = none) :
    ((o.map ("HP=" ++ ·.name)).toList).foldl readHeadItem g = { g with hp := o } := by
  rw [foldl_item _ _ some (fun v => { g with hp := v }) (by rw [← hg]) (readHeadItem_hp g),
    Option.bind_fun_some]

theorem foldl_mode (o : Option Mode) (hg : g.mode = none) :
    ((o.map ("mode=" ++ ·.name)).toList).foldl readHeadItem g = { g with mode := o } := by
  rw [foldl_item _ _ some (fun v => { g with mode := v }) (by rw [← hg]) (readHeadItem_mode g),
    Option.bind_fun_some]

theorem foldl_ohi (o : Option Ohi) (hg : g.ohi = none) :
    ((o.map ("OHI=" ++ ·.text)).toList).foldl readHeadItem g =
      { g with ohi := o.map Ohi.reread } := by
  rw [foldl_item _ _ (fun o => some o.reread) (fun v => { g with ohi := v }) (by rw [← hg])
    (readHeadItem_ohi g)]
  cases o <;> rfl

end Kinds

theorem HrefHead.items_eq (h : HrefHead) : h.items =
    ((h.lambda.bind headNumber).map ("λ" ++ ·)).toList ++
      ((h.permeability.bind headNumber).map ("π" ++ ·)).toList ++
      ((h.entropy.bind headNumber).map ("ε" ++ ·)).toList ++
      (h.hp.map ("HP=" ++ ·.name)).toList ++ (h.mode.map ("mode=" ++ ·.name)).toList ++
      (h.ohi.map ("OHI=" ++ ·.text)).toList := by
  simp only [HrefHead.items, List.filterMap_eq_flatMap_toList, List.flatMap_cons,
    List.flatMap_nil, List.append_nil, ← Option.toList_map, toString, Ohi.text,
    String.append_assoc, List.append_assoc]
  try rfl

/-- Reading a head's items back rebuilds the head, each number as its text reads. -/
theorem HrefHead.read_items (h : HrefHead) : h.items.foldl readHeadItem {} = h.reread := by
  rw [HrefHead.items_eq]
  simp only [List.foldl_append]
  rw [foldl_lambda, foldl_permeability, foldl_entropy, foldl_hp, foldl_mode, foldl_ohi] <;> rfl

/-- Each head item is one word and starts like no key. -/
theorem HrefHead.items_spec (h : HrefHead) :
    ∀ i ∈ h.items, Text.Word i ∧ isHrefKey i = false := by
  intro i hi
  rw [HrefHead.items_eq] at hi
  simp only [List.mem_append, Option.mem_toList, Option.map_eq_some_iff] at hi
  rcases hi with ((((⟨t, ht, rfl⟩ | ⟨t, ht, rfl⟩) | ⟨t, ht, rfl⟩) | ⟨m, -, rfl⟩) | ⟨m, -, rfl⟩) |
    ⟨o, -, rfl⟩
  all_goals refine ⟨(Text.word_of_all (by decide)).append ?_, by simp [isHrefKey, hrefKeys]⟩
  · exact headNumber_noSpace ht
  · exact headNumber_noSpace ht
  · exact headNumber_noSpace ht
  · exact m.name_noSpace
  · exact m.name_noSpace
  · exact o.text_noSpace

theorem rereadNumber_eq {o : Option Float}
    (ho : ∀ x, o = some x → (headNumber x).bind finiteNumber? = some x) :
    rereadNumber o = o := by
  cases o with
  | none => rfl
  | some x => exact ho x rfl

theorem HrefHead.reread_eq (h : HrefHead)
    (hnum : ∀ x ∈ h.numbers, (headNumber x).bind finiteNumber? = some x) : h.reread = h := by
  obtain ⟨lambda, permeability, entropy, hp, mode, ohi⟩ := h
  simp only [HrefHead.numbers, List.mem_append, Option.mem_toList, or_imp,
    forall_and] at hnum
  obtain ⟨⟨⟨hl, hπ⟩, hε⟩, hohi⟩ := hnum
  have hindicator : ohi.map Ohi.reread = ohi := by
    cases ohi with
    | none => rfl
    | some o =>
      simp only [Option.map_some, Ohi.reread,
        rereadNumber_eq fun x hx => hohi x (by simpa using hx)]
  simp only [HrefHead.reread, rereadNumber_eq hl, rereadNumber_eq hπ, rereadNumber_eq hε,
    hindicator]

/-! ## The tokens of a line -/

/-- What follows the prefix of a line, token by token; each is written after one space. -/
def Href.tokens (h : Href) : List String :=
  ["comp=" ++ h.comp, "pc=" ++ h.pc, "cap=" ++ h.cap] ++
    (match h.head.items with
     | [] => []
     | i :: is => ("head=" ++ i) :: is) ++
    (if h.hot.isEmpty then [] else ["hot=" ++ ",".intercalate (h.hot.take maxHot)])

theorem Href.line_eq (h : Href) :
    h.line = hrefPrefix ++ String.ofList (Text.spaced h.tokens) := by
  apply String.toList_inj.mp
  unfold Href.line Href.tokens
  cases hi : h.head.items with
  | nil =>
    by_cases hh : h.hot.isEmpty <;> simp [hh, Text.spaced, toString]
  | cons i is =>
    by_cases hh : h.hot.isEmpty <;>
      simp [hh, Text.spaced, toString, Text.intercalate_space, Function.comp_def]

namespace HrefScan

variable (s : HrefScan) (v : String)

theorem step_comp : s.step ("comp=" ++ v) = { s with inHead := false, comp := some v } := by
  simp [step, isHrefKey, hrefKeys, afterPrefix_append]

theorem step_pc : s.step ("pc=" ++ v) = { s with inHead := false, pc := some v } := by
  simp [step, isHrefKey, hrefKeys, afterPrefix_append, afterPrefix_eq_none]

theorem step_cap : s.step ("cap=" ++ v) = { s with inHead := false, cap := some v } := by
  simp [step, isHrefKey, hrefKeys, afterPrefix_append, afterPrefix_eq_none]

theorem step_head : s.step ("head=" ++ v) = { s with inHead := true, head := [v] } := by
  simp [step, isHrefKey, hrefKeys, afterPrefix_append, afterPrefix_eq_none]

theorem step_hot : s.step ("hot=" ++ v) =
    { s with inHead := false, hot := ((v.splitOn ",").map Text.trim).filter (!·.isEmpty) } := by
  simp [step, isHrefKey, hrefKeys, afterPrefix_append, afterPrefix_eq_none]

theorem foldl_inHead {s : HrefScan} (hs : s.inHead = true) {ts : List String}
    (hts : ∀ t ∈ ts, isHrefKey t = false) :
    ts.foldl step s = { s with head := s.head ++ ts } := by
  induction ts generalizing s with
  | nil => simp
  | cons t ts ih =>
    have hstep : s.step t = { s with head := s.head ++ [t] } := by
      simp [step, hts t (by simp), hs]
    rw [List.foldl_cons, hstep, ih (s := { s with head := s.head ++ [t] }) hs
      (fun u hu => hts u (by simp [hu]))]
    simp

end HrefScan

theorem readHot_intercalate {hot : List String}
    (hhot : ∀ e ∈ hot, Text.Word e ∧ ',' ∉ e.toList) (hne : hot ≠ []) :
    (((",".intercalate hot).splitOn ",").map Text.trim).filter (!·.isEmpty) = hot := by
  have hsplit : (",".intercalate hot).splitOn "," = hot := by
    rw [show "," = String.singleton ',' from rfl, splitOn_singleton, String.toList_intercalate,
      String.toList_singleton,
      List.splitOn_intercalate ',' (by simpa using fun e he => (hhot e he).2) (by simpa using hne)]
    simp [Function.comp_def]
  rw [hsplit, List.map_congr_left (fun e he => (hhot e he).1.trim_eq), List.map_id']
  exact List.filter_eq_self.mpr fun e he => by
    rw [(hhot e he).1.isEmpty_eq_false, Bool.not_false]

section Line

variable {h : Href} (hcomp : Text.Word h.comp) (hpc : Text.Word h.pc) (hcap : Text.Word h.cap)
  (hhot : ∀ e ∈ h.hot, Text.Word e ∧ ',' ∉ e.toList)

include hcomp hpc hcap hhot in
theorem Href.tokens_words : ∀ t ∈ h.tokens, Text.Word t := by
  intro t ht
  simp only [Href.tokens, List.mem_append, List.mem_cons, List.not_mem_nil, or_false] at ht
  rcases ht with ((rfl | rfl | rfl) | ht) | ht
  · exact (Text.word_of_all (by decide)).append hcomp.no_space
  · exact (Text.word_of_all (by decide)).append hpc.no_space
  · exact (Text.word_of_all (by decide)).append hcap.no_space
  · cases hi : h.head.items with
    | nil => simp [hi] at ht
    | cons i is =>
      have hitems := h.head.items_spec
      rw [hi] at hitems ht
      rcases List.mem_cons.mp ht with rfl | ht
      · exact (Text.word_of_all (by decide)).append (hitems i (by simp)).1.no_space
      · exact (hitems t (by simp [ht])).1
  · split at ht
    · simp at ht
    · rw [List.mem_singleton] at ht
      subst ht
      refine (Text.word_of_all (by decide)).append fun c hc => ?_
      rw [String.toList_intercalate] at hc
      rcases mem_of_mem_intercalate hc with hc | ⟨x, hx, hc⟩
      · simp at hc; subst hc; decide
      · obtain ⟨e, he, rfl⟩ := List.mem_map.mp hx
        exact (hhot e (List.mem_of_mem_take he)).1.no_space c hc

include hhot in
theorem Href.scan_tokens : ∃ b, h.tokens.foldl HrefScan.step {} =
    { comp := some h.comp, pc := some h.pc, cap := some h.cap, head := h.head.items
      hot := h.hot.take maxHot, inHead := b } := by
  simp only [Href.tokens, List.foldl_append, List.foldl_cons, List.foldl_nil, HrefScan.step_comp,
    HrefScan.step_pc, HrefScan.step_cap]
  have hhead : ∃ b, (match h.head.items with
      | [] => []
      | i :: is => ("head=" ++ i) :: is).foldl HrefScan.step
        { comp := some h.comp, pc := some h.pc, cap := some h.cap } =
      { comp := some h.comp, pc := some h.pc, cap := some h.cap, head := h.head.items,
        inHead := b } := by
    have hitems := h.head.items_spec
    cases hi : h.head.items with
    | nil => exact ⟨false, rfl⟩
    | cons i is =>
      rw [hi] at hitems
      refine ⟨true, ?_⟩
      rw [List.foldl_cons, HrefScan.step_head,
        HrefScan.foldl_inHead rfl (fun t ht => (hitems t (by simp [ht])).2)]
      rfl
  obtain ⟨b, hb⟩ := hhead
  rw [hb]
  split
  · rename_i hempty
    refine ⟨b, ?_⟩
    simp [List.isEmpty_iff.mp hempty]
  · rename_i hne
    refine ⟨false, ?_⟩
    have htake : h.hot.take maxHot ≠ [] := by
      simpa [maxHot, List.isEmpty_iff] using hne
    rw [List.foldl_cons, List.foldl_nil, HrefScan.step_hot,
      readHot_intercalate (fun e he => hhot e (List.mem_of_mem_take he)) htake]

end Line

/-! ## The round trip -/

/-- A line reads back as the reference it was written from, the hot list cut to what is
written. -/
theorem Href.parse_line (h : Href) (hcomp : Text.Word h.comp) (hpc : Text.Word h.pc)
    (hcap : Text.Word h.cap) (hhot : ∀ e ∈ h.hot, Text.Word e ∧ ',' ∉ e.toList)
    (hnum : ∀ x ∈ h.head.numbers, (headNumber x).bind finiteNumber? = some x) :
    Href.parse h.line = some { h with hot := h.hot.take maxHot } := by
  have hwords := Href.tokens_words hcomp hpc hcap hhot
  obtain ⟨b, hscan⟩ := Href.scan_tokens hhot
  have hkeep : h.head.items.filter (!·.isEmpty) = h.head.items :=
    List.filter_eq_self.mpr fun i hi => by
      rw [(h.head.items_spec i hi).1.isEmpty_eq_false, Bool.not_false]
  have hnonEmpty : ∀ {s : String}, Text.Word s → (some s).filter (!·.isEmpty) = some s :=
    fun hs => by rw [Option.filter_some, hs.isEmpty_eq_false, Bool.not_false, if_pos rfl]
  rw [Href.parse, Href.line_eq, Text.trim_word_spaced (Text.word_of_all (by decide)) hwords,
    afterPrefix_append]
  simp only [Option.bind_eq_bind, Option.bind_some, Option.pure_def, Text.words_spaced hwords,
    hscan, hkeep, HrefHead.read_items, h.head.reread_eq hnum, hnonEmpty hcomp, hnonEmpty hpc,
    hnonEmpty hcap]

/-- A line with a head of named items and two hot entries. -/
theorem Href.parse_line_of_named_head :
    Href.parse ({ comp := "Stranger", pc := "pc_7d3a", cap := "cap_19b2"
                  head := { hp := some .lite, mode := some .presence, ohi := some { state := .warm } }
                  hot := ["tea", "rain"] } : Href).line =
      some { comp := "Stranger", pc := "pc_7d3a", cap := "cap_19b2"
             head := { hp := some .lite, mode := some .presence, ohi := some { state := .warm } }
             hot := ["tea", "rain"] } :=
  Href.parse_line _ (Text.word_of_all (by decide)) (Text.word_of_all (by decide))
    (Text.word_of_all (by decide))
    (by
      intro e he
      simp only [List.mem_cons, List.not_mem_nil, or_false] at he
      rcases he with rfl | rfl <;> exact ⟨Text.word_of_all (by decide), by decide⟩)
    (by simp [HrefHead.numbers])

end CapsuleFlow
