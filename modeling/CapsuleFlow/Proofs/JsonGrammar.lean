import Mathlib
import CapsuleFlow.Proofs.NumberReading

/-!
# The JSON grammar

JSON text as RFC 8259 defines it, without the optional white space around structural
characters: the literals `null`, `true` and `false`, numbers, string literals with their
escapes, arrays and objects. `Value x cs` says that the characters `cs` are one JSON value
and that `x` is its syntax tree, string literals decoded, numbers kept as their text and
members in the order written. Syntax trees are normal forms, so the tree of a canonical
text can be compared with the normal form it was written from.

The grammar is stated on its own, not through the writer. Two things hold of every text it
accepts: no character below U+0020 stands anywhere in it (`Value.printable`), and every
space in it is a space of one of its strings or keys (`Value.space_mem_strings`), so white
space occurs only inside string literals.

The writer is then shown to write this grammar: every string has a literal
(`literal_quote`), integer texts and trimmed fixed-point texts are numbers, and a normal form
whose numbers all have such texts is written as a JSON value with itself as its tree
(`NormalForm.value_chars`).
-/

namespace CapsuleFlow

open Json

namespace NormalForm

/-- The strings of a normal form, its keys included, in order. -/
def strings : NormalForm → List String
  | .string s => [s]
  | .array xs => itemStrings xs
  | .object ms => memberStrings ms
  | _ => []
where
  /-- The strings of the elements. -/
  itemStrings : List NormalForm → List String
    | [] => []
    | x :: xs => x.strings ++ itemStrings xs
  /-- The keys and the strings of the member values. -/
  memberStrings : List (String × NormalForm) → List String
    | [] => []
    | (k, x) :: ms => k :: x.strings ++ memberStrings ms

theorem mem_itemStrings {s : String} {xs : List NormalForm} :
    s ∈ strings.itemStrings xs ↔ ∃ x ∈ xs, s ∈ x.strings := by
  induction xs with
  | nil => simp [strings.itemStrings]
  | cons x xs ih => simp [strings.itemStrings, ih]

theorem mem_memberStrings {s : String} {ms : List (String × NormalForm)} :
    s ∈ strings.memberStrings ms ↔ ∃ m ∈ ms, s = m.1 ∨ s ∈ m.2.strings := by
  induction ms with
  | nil => simp [strings.memberStrings]
  | cons m ms ih =>
    simp [strings.memberStrings, ih, or_assoc]

end NormalForm

namespace Json.Grammar

/-! ## Tokens -/

/-- A character at or above U+0020. -/
def Printable (c : Char) : Prop := 0x20 ≤ c.toNat

instance : DecidablePred Printable := fun c => inferInstanceAs (Decidable (0x20 ≤ c.toNat))

/-- A character that stands for itself inside a string literal: anything but the quote,
the backslash and the control characters below U+0020. -/
def Unescaped (c : Char) : Prop := Printable c ∧ c ≠ '"' ∧ c ≠ '\\'

/-- A hexadecimal digit, in either case, and its value. -/
def HexDigit (c : Char) (v : Nat) : Prop :=
  (c.isDigit ∧ v = c.toNat - 48) ∨ ('a' ≤ c ∧ c ≤ 'f' ∧ v = c.toNat - 87) ∨
    ('A' ≤ c ∧ c ≤ 'F' ∧ v = c.toNat - 55)

instance (c : Char) (v : Nat) : Decidable (HexDigit c v) :=
  inferInstanceAs (Decidable (_ ∨ _ ∨ _))

/-- An escape sequence and the character it stands for. A `\u` escape gives the code
point in four hexadecimal digits; surrogate pairs are left out. -/
inductive Escape : List Char → Char → Prop
  | quote : Escape ['\\', '"'] '"'
  | backslash : Escape ['\\', '\\'] '\\'
  | slash : Escape ['\\', '/'] '/'
  | backspace : Escape ['\\', 'b'] '\x08'
  | formFeed : Escape ['\\', 'f'] '\x0c'
  | lineFeed : Escape ['\\', 'n'] '\n'
  | carriageReturn : Escape ['\\', 'r'] '\r'
  | tab : Escape ['\\', 't'] '\t'
  | unicode {a b c d ch : Char} {va vb vc vd : Nat} (ha : HexDigit a va) (hb : HexDigit b vb)
      (hc : HexDigit c vc) (hd : HexDigit d vd)
      (hch : ch.toNat = ((va * 16 + vb) * 16 + vc) * 16 + vd) :
      Escape ['\\', 'u', a, b, c, d] ch

/-- The characters between the quotes of a string literal, and the characters they
stand for. -/
inductive Body : List Char → List Char → Prop
  | nil : Body [] []
  | plain {c : Char} {cs s : List Char} (hc : Unescaped c) (h : Body cs s) : Body (c :: cs) (c :: s)
  | escape {e cs s : List Char} {c : Char} (he : Escape e c) (h : Body cs s) :
      Body (e ++ cs) (c :: s)

/-- A string literal standing for `s`. -/
def Literal (cs : List Char) (s : String) : Prop :=
  ∃ body, cs = '"' :: (body ++ ['"']) ∧ Body body s.toList

/-- A nonempty run of decimal digits. -/
def Digits (ds : List Char) : Prop := ds ≠ [] ∧ ∀ d ∈ ds, d.isDigit

/-- The integer part of a number: `0`, or digits that do not start with `0`. -/
def IntegerPart (ds : List Char) : Prop := ds = ['0'] ∨ (Digits ds ∧ ds.head? ≠ some '0')

/-- An optional fraction: a point and at least one digit. -/
def Fraction (cs : List Char) : Prop := cs = [] ∨ ∃ ds, cs = '.' :: ds ∧ Digits ds

/-- An optional exponent: `e` or `E`, an optional sign, and at least one digit. -/
def Exponent (cs : List Char) : Prop :=
  cs = [] ∨ ∃ e sgn ds, cs = e :: (sgn ++ ds) ∧ (e = 'e' ∨ e = 'E') ∧
    (sgn = [] ∨ sgn = ['+'] ∨ sgn = ['-']) ∧ Digits ds

/-- A number: an optional minus sign, the integer part, the fraction and the exponent. -/
def Number (cs : List Char) : Prop :=
  ∃ sign int frac exp, cs = sign ++ int ++ frac ++ exp ∧ (sign = [] ∨ sign = ['-']) ∧
    IntegerPart int ∧ Fraction frac ∧ Exponent exp

/-! ## Values -/

mutual
/-- `cs` is one JSON value and `x` its syntax tree. -/
inductive Value : NormalForm → List Char → Prop
  | null : Value .null ['n', 'u', 'l', 'l']
  | true : Value (.bool true) ['t', 'r', 'u', 'e']
  | false : Value (.bool false) ['f', 'a', 'l', 's', 'e']
  | number {t : String} (h : Number t.toList) : Value (.number (some t)) t.toList
  | string {s : String} {cs : List Char} (h : Literal cs s) : Value (.string s) cs
  | array {xs : List NormalForm} {cs : List Char} (h : Elements xs cs) :
      Value (.array xs) ('[' :: (cs ++ [']']))
  | object {ms : List (String × NormalForm)} {cs : List Char} (h : Members ms cs) :
      Value (.object ms) ('{' :: (cs ++ ['}']))
/-- Array elements separated by commas. -/
inductive Elements : List NormalForm → List Char → Prop
  | nil : Elements [] []
  | single {x : NormalForm} {cs : List Char} (h : Value x cs) : Elements [x] cs
  | cons {x y : NormalForm} {ys : List NormalForm} {cs ds : List Char} (h : Value x cs)
      (t : Elements (y :: ys) ds) : Elements (x :: y :: ys) (cs ++ ',' :: ds)
/-- Object members, each a key literal, a colon and a value, separated by commas. -/
inductive Members : List (String × NormalForm) → List Char → Prop
  | nil : Members [] []
  | single {k : String} {v : NormalForm} {ks vs : List Char} (hk : Literal ks k)
      (hv : Value v vs) : Members [(k, v)] (ks ++ ':' :: vs)
  | cons {k : String} {v : NormalForm} {m : String × NormalForm}
      {ms : List (String × NormalForm)} {ks vs ds : List Char} (hk : Literal ks k)
      (hv : Value v vs) (t : Members (m :: ms) ds) :
      Members ((k, v) :: m :: ms) (ks ++ ':' :: vs ++ ',' :: ds)
end

/-! ## Which characters a text holds

Outside string literals a JSON text holds only graphic characters, above U+0020: letters of
the literals, digits and signs of numbers, brackets, colons and commas. Inside a literal an
escape is graphic too, and the only other characters are those that stand for themselves,
of which the space is the one that is not graphic. -/

/-- A character above U+0020: neither a control character nor a space. -/
def Graphic (c : Char) : Prop := 0x20 < c.toNat

instance : DecidablePred Graphic := fun c => inferInstanceAs (Decidable (0x20 < c.toNat))

/-- A character that may stand in a JSON text whose strings are `ss`: a graphic character,
or a space that one of the strings holds. -/
def Allowed (ss : List String) (c : Char) : Prop :=
  Graphic c ∨ (c = ' ' ∧ ∃ s ∈ ss, ' ' ∈ s.toList)

theorem Graphic.of_le {a c : Char} (ha : Graphic a) (h : a ≤ c) : Graphic c := by
  simp only [Char.le_def, UInt32.le_iff_toNat_le] at h
  simp only [Graphic, Char.toNat] at ha ⊢
  omega

theorem graphic_of_all {l : List Char} (h : l.all (fun c => decide (Graphic c)) = true) :
    ∀ c ∈ l, Graphic c := by
  simpa using h

theorem Graphic.of_isDigit {c : Char} (h : c.isDigit) : Graphic c := by
  simp only [Char.isDigit, Bool.and_eq_true, decide_eq_true_eq] at h
  exact Graphic.of_le (by decide) h.1

theorem Graphic.printable {c : Char} (h : Graphic c) : Printable c :=
  Nat.le_of_lt h

theorem Printable.graphic_or_space {c : Char} (h : Printable c) : Graphic c ∨ c = ' ' := by
  rcases Nat.lt_or_eq_of_le h with h | h
  · exact .inl h
  · exact .inr (Char.toNat_inj.mp h.symm)

theorem Allowed.mono {ss ss' : List String} (h : ∀ s ∈ ss, s ∈ ss') {c : Char}
    (hc : Allowed ss c) : Allowed ss' c := by
  rcases hc with hc | ⟨rfl, s, hs, hsp⟩
  · exact .inl hc
  · exact .inr ⟨rfl, s, h s hs, hsp⟩

theorem Allowed.printable {ss : List String} {c : Char} (h : Allowed ss c) : Printable c := by
  rcases h with h | ⟨rfl, -⟩
  · exact h.printable
  · decide

theorem Allowed.space {ss : List String} (h : Allowed ss ' ') : ∃ s ∈ ss, ' ' ∈ s.toList := by
  rcases h with h | ⟨-, h⟩
  · exact absurd h (by decide)
  · exact h

theorem Digits.graphic {ds : List Char} (h : ∀ d ∈ ds, d.isDigit) : ∀ d ∈ ds, Graphic d :=
  fun d hd => .of_isDigit (h d hd)

theorem HexDigit.graphic {c : Char} {v : Nat} (h : HexDigit c v) : Graphic c := by
  rcases h with ⟨h, -⟩ | ⟨h, -⟩ | ⟨h, -⟩
  · exact .of_isDigit h
  · exact .of_le (by decide) h
  · exact .of_le (by decide) h

theorem Escape.graphic {e : List Char} {c : Char} (h : Escape e c) : ∀ x ∈ e, Graphic x := by
  cases h
  case unicode ha hb hc hd _ =>
    intro x hx
    simp only [List.mem_cons, List.not_mem_nil, or_false] at hx
    rcases hx with rfl | rfl | rfl | rfl | rfl | rfl
    · decide
    · decide
    · exact ha.graphic
    · exact hb.graphic
    · exact hc.graphic
    · exact hd.graphic
  all_goals exact graphic_of_all (by decide)

theorem Body.graphic_or_space {cs s : List Char} (h : Body cs s) :
    ∀ x ∈ cs, Graphic x ∨ (x = ' ' ∧ ' ' ∈ s) := by
  induction h with
  | nil => simp
  | plain hc _ ih =>
    intro x hx
    rcases List.mem_cons.mp hx with rfl | hx
    · rcases hc.1.graphic_or_space with hg | rfl
      · exact .inl hg
      · exact .inr ⟨rfl, List.mem_cons_self⟩
    · rcases ih x hx with hg | ⟨rfl, hsp⟩
      · exact .inl hg
      · exact .inr ⟨rfl, List.mem_cons_of_mem _ hsp⟩
  | escape he _ ih =>
    intro x hx
    rcases List.mem_append.mp hx with hx | hx
    · exact .inl (he.graphic x hx)
    · rcases ih x hx with hg | ⟨rfl, hsp⟩
      · exact .inl hg
      · exact .inr ⟨rfl, List.mem_cons_of_mem _ hsp⟩

theorem Literal.allowed {cs : List Char} {s : String} (h : Literal cs s) :
    ∀ x ∈ cs, Allowed [s] x := by
  obtain ⟨body, rfl, hb⟩ := h
  intro x hx
  simp only [List.mem_cons, List.mem_append, List.not_mem_nil, or_false] at hx
  rcases hx with rfl | hx | rfl
  · exact .inl (by decide)
  · rcases hb.graphic_or_space x hx with hg | ⟨rfl, hsp⟩
    · exact .inl hg
    · exact .inr ⟨rfl, s, List.mem_singleton_self s, hsp⟩
  · exact .inl (by decide)

theorem IntegerPart.graphic {ds : List Char} (h : IntegerPart ds) : ∀ x ∈ ds, Graphic x := by
  rcases h with rfl | ⟨⟨-, hd⟩, -⟩
  · exact graphic_of_all (by decide)
  · exact Digits.graphic hd

theorem Fraction.graphic {cs : List Char} (h : Fraction cs) : ∀ x ∈ cs, Graphic x := by
  rcases h with rfl | ⟨ds, rfl, -, hds⟩
  · simp
  · intro x hx
    rcases List.mem_cons.mp hx with rfl | hx
    · decide
    · exact Digits.graphic hds x hx

theorem Exponent.graphic {cs : List Char} (h : Exponent cs) : ∀ x ∈ cs, Graphic x := by
  rcases h with rfl | ⟨e, sgn, ds, rfl, he, hsgn, -, hds⟩
  · simp
  · intro x hx
    rcases List.mem_cons.mp hx with rfl | hx
    · rcases he with rfl | rfl <;> decide
    · rcases List.mem_append.mp hx with hx | hx
      · rcases hsgn with rfl | rfl | rfl
        all_goals exact graphic_of_all (by decide) x hx
      · exact Digits.graphic hds x hx

theorem Number.graphic {cs : List Char} (h : Number cs) : ∀ x ∈ cs, Graphic x := by
  obtain ⟨sign, int, frac, exp, rfl, hsign, hint, hfrac, hexp⟩ := h
  have hs : ∀ x ∈ sign, Graphic x := by
    rcases hsign with rfl | rfl
    all_goals exact graphic_of_all (by decide)
  intro x hx
  simp only [List.mem_append] at hx
  rcases hx with ((hx | hx) | hx) | hx
  · exact hs x hx
  · exact hint.graphic x hx
  · exact hfrac.graphic x hx
  · exact hexp.graphic x hx

section Texts

open NormalForm

mutual
/-- Every character of a JSON text is graphic, or a space of one of its strings or keys.
The structural characters, the literals' letters and the numbers' characters are graphic,
so what is not comes from inside a string literal. -/
theorem Value.allowed {x : NormalForm} {cs : List Char} :
    Value x cs → ∀ c ∈ cs, Allowed x.strings c
  | .null => fun c hc => .inl (graphic_of_all (by decide) c hc)
  | .true => fun c hc => .inl (graphic_of_all (by decide) c hc)
  | .false => fun c hc => .inl (graphic_of_all (by decide) c hc)
  | .number h => fun c hc => .inl (h.graphic c hc)
  | .string h => fun c hc => by
    simpa only [strings] using h.allowed c hc
  | .array h => fun c hc => by
    simp only [List.mem_cons, List.mem_append, List.not_mem_nil, or_false] at hc
    rcases hc with rfl | hc | rfl
    · exact .inl (by decide)
    · simpa only [strings] using Elements.allowed h c hc
    · exact .inl (by decide)
  | .object h => fun c hc => by
    simp only [List.mem_cons, List.mem_append, List.not_mem_nil, or_false] at hc
    rcases hc with rfl | hc | rfl
    · exact .inl (by decide)
    · simpa only [strings] using Members.allowed h c hc
    · exact .inl (by decide)
theorem Elements.allowed {xs : List NormalForm} {cs : List Char} :
    Elements xs cs → ∀ c ∈ cs, Allowed (strings.itemStrings xs) c
  | .nil => by simp
  | .single h => fun c hc =>
    (Value.allowed h c hc).mono fun s hs => by simp [strings.itemStrings, hs]
  | .cons h t => fun c hc => by
    simp only [List.mem_append, List.mem_cons] at hc
    rcases hc with hc | rfl | hc
    · exact (Value.allowed h c hc).mono fun s hs => by simp [strings.itemStrings, hs]
    · exact .inl (by decide)
    · exact (Elements.allowed t c hc).mono fun s hs => by
        rw [strings.itemStrings]
        exact List.mem_append_right _ hs
theorem Members.allowed {ms : List (String × NormalForm)} {cs : List Char} :
    Members ms cs → ∀ c ∈ cs, Allowed (strings.memberStrings ms) c
  | .nil => by simp
  | .single hk hv => fun c hc => by
    simp only [List.mem_append, List.mem_cons] at hc
    rcases hc with hc | rfl | hc
    · exact (hk.allowed c hc).mono fun s hs => by simp_all [strings.memberStrings]
    · exact .inl (by decide)
    · exact (Value.allowed hv c hc).mono fun s hs => by simp [strings.memberStrings, hs]
  | .cons hk hv t => fun c hc => by
    simp only [List.mem_append, List.mem_cons] at hc
    rcases hc with (hc | rfl | hc) | rfl | hc
    · exact (hk.allowed c hc).mono fun s hs => by simp_all [strings.memberStrings]
    · exact .inl (by decide)
    · exact (Value.allowed hv c hc).mono fun s hs => by simp [strings.memberStrings, hs]
    · exact .inl (by decide)
    · exact (Members.allowed t c hc).mono fun s hs => by
        rw [strings.memberStrings]
        exact List.mem_append_right _ hs
end

/-- No JSON text holds a raw character below U+0020: control characters occur only
escaped, inside string literals. -/
theorem Value.printable {x : NormalForm} {cs : List Char} (h : Value x cs) :
    ∀ c ∈ cs, Printable c :=
  fun c hc => (h.allowed c hc).printable

/-- Every space of a JSON text is a space of one of its strings or keys: the text holds no
white space outside its string literals. -/
theorem Value.space_mem_strings {x : NormalForm} {cs : List Char} (h : Value x cs)
    (hsp : ' ' ∈ cs) : ∃ s ∈ x.strings, ' ' ∈ s.toList :=
  (h.allowed ' ' hsp).space

end Texts

/-! ## What the writer writes -/

theorem HexDigit.of_hexDigit : ∀ n < 16, HexDigit (hexDigit n) n := by decide

theorem escapeChar_cases (c : Char) :
    Escape (escapeChar c) c ∨ (escapeChar c = [c] ∧ Unescaped c) := by
  unfold escapeChar
  split
  · exact .inl .quote
  · exact .inl .backslash
  · exact .inl .backspace
  · exact .inl .formFeed
  · exact .inl .lineFeed
  · exact .inl .carriageReturn
  · exact .inl .tab
  · next hq hb _ _ _ _ _ =>
    split
    · next hlt =>
      refine .inl (.unicode (show HexDigit '0' 0 by decide) (show HexDigit '0' 0 by decide)
        (HexDigit.of_hexDigit _ (by omega)) (HexDigit.of_hexDigit _ (by omega)) ?_)
      omega
    · next hge =>
      exact .inr ⟨rfl, Nat.le_of_not_lt hge, hq, hb⟩

theorem body_flatMap_escapeChar (l : List Char) : Body (l.flatMap escapeChar) l := by
  induction l with
  | nil => exact .nil
  | cons c l ih =>
    rw [List.flatMap_cons]
    rcases escapeChar_cases c with he | ⟨he, hu⟩
    · exact .escape he ih
    · rw [he]
      exact .plain hu ih

/-- The writer's literal of a string is a string literal standing for it. -/
theorem literal_quote (s : String) : Literal (quote s).toList s :=
  ⟨_, quote_toList s, body_flatMap_escapeChar _⟩

theorem IntegerPart.ne_nil {ds : List Char} (h : IntegerPart ds) : ds ≠ [] := by
  rcases h with rfl | ⟨⟨hne, -⟩, -⟩
  · simp
  · exact hne

theorem IntegerPart.isDigit {ds : List Char} (h : IntegerPart ds) : ∀ c ∈ ds, c.isDigit := by
  rcases h with rfl | ⟨⟨-, hd⟩, -⟩
  · simp
  · exact hd

theorem IntegerPart.toDigits (n : Nat) : IntegerPart (Nat.toDigits 10 n) := by
  by_cases h0 : n = 0
  · subst h0
    exact .inl rfl
  · exact .inr ⟨⟨Nat.toDigits_ne_nil, fun _ => Nat.isDigit_of_mem_toDigits (by decide) (by decide)⟩,
      toDigits_head_ne_zero n h0⟩

theorem number_toString_int (i : Int) : Number (toString i).toList := by
  cases i with
  | ofNat n =>
    exact ⟨[], Nat.toDigits 10 n, [], [], by rw [toString_ofNat_toList]; simp, .inl rfl,
      IntegerPart.toDigits n, .inl rfl, .inl rfl⟩
  | negSucc n =>
    exact ⟨['-'], Nat.toDigits 10 (n + 1), [], [], by rw [toString_negSucc_toList]; simp, .inr rfl,
      IntegerPart.toDigits _, .inl rfl, .inl rfl⟩

theorem trimFraction_getLast_ne_point {s : String} (h : s.contains '.' = true) :
    (trimFraction s).toList.getLast? ≠ some '.' := by
  simp only [trimFraction, h, if_true, String.toList_ofList, List.getLast?_reverse]
  intro hlast
  have hnot := List.head?_dropWhile_not (· == '.') (s.toList.reverse.dropWhile (· == '0'))
  rw [hlast] at hnot
  simp at hnot

theorem number_trimFraction {sign whole frac : List Char} (hsign : sign = [] ∨ sign = ['-'])
    (hwhole : IntegerPart whole) (hfrac : ∀ c ∈ frac, c.isDigit) :
    Number (trimFraction (String.ofList (sign ++ whole ++ '.' :: frac))).toList := by
  have hlast : ∀ c ∈ (sign ++ whole).getLast?, c ≠ '.' := by
    rintro c hc rfl
    rw [List.getLast?_append_of_ne_nil _ hwhole.ne_nil] at hc
    exact absurd (hwhole.isDigit '.' (List.mem_of_getLast? hc)) (by decide)
  obtain ⟨hpre, hsub⟩ := trimFraction_point (sign ++ whole) frac hlast
  obtain ⟨u, hu⟩ := hpre
  rw [← hu, List.prefix_append_right_inj] at hsub
  have hend := trimFraction_getLast_ne_point
    (s := String.ofList (sign ++ whole ++ '.' :: frac)) (by simp [String.contains])
  rw [← hu] at hend ⊢
  rcases u with _ | ⟨p, ds⟩
  · exact ⟨sign, whole, [], [], by simp, hsign, hwhole, .inl rfl, .inl rfl⟩
  · obtain ⟨rfl, hds⟩ := List.cons_prefix_cons.mp hsub
    have hne : ds ≠ [] := by
      rintro rfl
      exact hend (by simp)
    exact ⟨sign, whole, '.' :: ds, [], by simp, hsign, hwhole,
      .inr ⟨ds, rfl, hne, fun c hc => hfrac c (hds.subset hc)⟩, .inl rfl⟩

theorem number_trimFraction_fixedText {y : Float} {d : Dyadic} (hy : y.value = .finite d)
    (places : Nat) : Number (trimFraction (fixedText y places)).toList := by
  obtain ⟨whole, frac, hne, hwhole, h0, hfrac, -, -, ht⟩ := fixedText_finite_toList hy places
  have hint : IntegerPart whole := h0.imp_right fun h => ⟨⟨hne, hwhole⟩, h⟩
  have hsign : (if d.neg then ['-'] else []) = [] ∨ (if d.neg then ['-'] else []) = ['-'] := by
    cases d.neg <;> simp
  by_cases hp : places = 0
  · rw [if_pos hp, List.append_nil] at ht
    rw [trimFraction_of_not_mem (by rw [ht]; exact point_not_mem_signed d.neg hwhole), ht]
    exact ⟨_, whole, [], [], by simp, hsign, hint, .inl rfl, .inl rfl⟩
  · rw [if_neg hp] at ht
    have htext : fixedText y places =
        String.ofList ((if d.neg then ['-'] else []) ++ whole ++ '.' :: frac) := by
      rw [← ht, String.ofList_toList]
    rw [htext]
    exact number_trimFraction hsign hint hfrac

theorem elements_intercalate : ∀ {xs : List NormalForm}, (∀ x ∈ xs, Value x x.chars) →
    Elements xs ([','].intercalate (xs.map NormalForm.chars))
  | [], _ => .nil
  | [x], h => by
    rw [List.map_singleton, List.intercalate_singleton]
    exact .single (h x List.mem_cons_self)
  | x :: y :: ys, h => by
    have ht : Elements (y :: ys) _ :=
      elements_intercalate fun z hz => h z (List.mem_cons_of_mem _ hz)
    rw [List.map_cons, List.map_cons, List.intercalate_cons_cons, ← List.map_cons,
      List.append_assoc, List.singleton_append]
    exact .cons (h x List.mem_cons_self) ht

theorem members_intercalate : ∀ {ms : List (String × NormalForm)}, (∀ m ∈ ms, Value m.2 m.2.chars) →
    Members ms ([','].intercalate (ms.map fun e => (quote e.1).toList ++ ':' :: e.2.chars))
  | [], _ => .nil
  | [(k, v)], h => by
    rw [List.map_singleton, List.intercalate_singleton]
    exact .single (literal_quote k) (h (k, v) List.mem_cons_self)
  | (k, v) :: m :: ms, h => by
    have ht : Members (m :: ms) _ :=
      members_intercalate fun z hz => h z (List.mem_cons_of_mem _ hz)
    rw [List.map_cons, List.intercalate_cons_of_ne_nil (by simp)]
    simpa only [List.append_assoc, List.cons_append, List.nil_append]
      using Members.cons (literal_quote k) (h (k, v) List.mem_cons_self) ht

end Json.Grammar

namespace NormalForm

theorem tokens_subset_array {x : NormalForm} {xs : List NormalForm} (hx : x ∈ xs) :
    ∀ t ∈ x.tokens, t ∈ (NormalForm.array xs).tokens := by
  intro t ht
  simp only [tokens, itemTokens_eq, List.mem_flatten, List.mem_map]
  exact ⟨_, ⟨x, hx, rfl⟩, ht⟩

theorem tokens_subset_object {m : String × NormalForm} {ms : List (String × NormalForm)}
    (hm : m ∈ ms) : ∀ t ∈ m.2.tokens, t ∈ (NormalForm.object ms).tokens := by
  intro t ht
  simp only [tokens, memberTokens_eq, List.mem_flatten, List.mem_map]
  exact ⟨_, ⟨m, hm, rfl⟩, ht⟩

/-- A normal form whose numbers all have texts that are JSON numbers is written as one
JSON value, with the normal form itself as its syntax tree. -/
theorem value_chars (x : NormalForm)
    (hx : ∀ t ∈ x.tokens, ∃ s, t = some s ∧ Grammar.Number s.toList) :
    Grammar.Value x x.chars := by
  induction x using NormalForm.induction with
  | null => exact .null
  | bool b =>
    cases b
    · exact .false
    · exact .true
  | number t =>
    obtain ⟨s, rfl, hs⟩ := hx t (by simp [tokens])
    exact .number hs
  | string s => exact .string (Grammar.literal_quote s)
  | array xs ih =>
    rw [chars, itemChars_eq_map, List.cons_append]
    exact .array (Grammar.elements_intercalate fun x hx' =>
      ih x hx' fun t ht => hx t (tokens_subset_array hx' t ht))
  | object ms ih =>
    rw [chars, memberChars_eq_map, List.cons_append]
    exact .object (Grammar.members_intercalate fun m hm =>
      ih m hm fun t ht => hx t (tokens_subset_object hm t ht))

end NormalForm

end CapsuleFlow
