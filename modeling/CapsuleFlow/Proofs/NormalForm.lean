import CapsuleFlow.Canonical
import CapsuleFlow.Proofs.Keyed
import CapsuleFlow.Proofs.StringLiteral

/-!
# The normal form behind canonical text

Canonical text sees a value only through a normal form: strings and keys as the options
normalize them, each number as its canonical text, arrays in order, and each object as one
member per normalized key in key order (`keyedOf`, so the later of two colliding members
stays). `NormalForm.of` builds it and `NormalForm.chars` writes it.

The main result, `canonicalize_eq_ok_iff`, says that canonicalization succeeds exactly when
every number of the normal form has a canonical text, and that its text is then the written
normal form. Everything later about canonical text is said about `chars`.
-/

namespace CapsuleFlow

open Json

theorem Json.Value.induction {motive : Value → Prop} (null : motive .null)
    (bool : ∀ b, motive (.bool b)) (number : ∀ n, motive (.number n))
    (string : ∀ s, motive (.string s)) (array : ∀ xs, (∀ x ∈ xs, motive x) → motive (.array xs))
    (object : ∀ ms, (∀ m ∈ ms, motive m.2) → motive (.object ms)) (v : Value) : motive v :=
  @Value.rec motive (fun xs => ∀ x ∈ xs, motive x) (fun ms => ∀ m ∈ ms, motive m.2)
    (fun m => motive m.2) null bool number string array object
    (by simp) (fun _ _ hx hxs => List.forall_mem_cons.mpr ⟨hx, hxs⟩)
    (by simp) (fun _ _ hm hms => List.forall_mem_cons.mpr ⟨hm, hms⟩)
    (fun _ _ h => h) v

/-- What canonical text records of a JSON value. -/
inductive NormalForm where
  | null
  | bool (b : Bool)
  /-- The canonical text of a number; `none` when it has none. -/
  | number (text : Option String)
  | string (s : String)
  | array (items : List NormalForm)
  /-- Members in key order, each key once. -/
  | object (members : List (String × NormalForm))
  deriving Inhabited, Repr

namespace NormalForm

theorem induction {motive : NormalForm → Prop} (null : motive .null)
    (bool : ∀ b, motive (.bool b)) (number : ∀ t, motive (.number t))
    (string : ∀ s, motive (.string s)) (array : ∀ xs, (∀ x ∈ xs, motive x) → motive (.array xs))
    (object : ∀ ms, (∀ m ∈ ms, motive m.2) → motive (.object ms)) (x : NormalForm) : motive x :=
  @NormalForm.rec motive (fun xs => ∀ x ∈ xs, motive x) (fun ms => ∀ m ∈ ms, motive m.2)
    (fun m => motive m.2) null bool number string array object
    (by simp) (fun _ _ hx hxs => List.forall_mem_cons.mpr ⟨hx, hxs⟩)
    (by simp) (fun _ _ hm hms => List.forall_mem_cons.mpr ⟨hm, hms⟩)
    (fun _ _ h => h) x

mutual
/-- The text of a normal form, as characters. -/
def chars : NormalForm → List Char
  | .null => "null".toList
  | .bool b => (if b then "true" else "false").toList
  | .number t => (t.getD "").toList
  | .string s => (quote s).toList
  | .array xs => '[' :: [','].intercalate (itemChars xs) ++ [']']
  | .object ms => '{' :: [','].intercalate (memberChars ms) ++ ['}']
/-- The texts of array elements. -/
def itemChars : List NormalForm → List (List Char)
  | [] => []
  | x :: xs => x.chars :: itemChars xs
/-- The texts of object members: key, colon, value. -/
def memberChars : List (String × NormalForm) → List (List Char)
  | [] => []
  | (k, v) :: ms => ((quote k).toList ++ ':' :: v.chars) :: memberChars ms
end

/-- The text of a normal form. -/
def text (n : NormalForm) : String := String.ofList n.chars

mutual
/-- The number texts of a normal form, in order. -/
def tokens : NormalForm → List (Option String)
  | .number t => [t]
  | .array xs => itemTokens xs
  | .object ms => memberTokens ms
  | _ => []
/-- The number texts of array elements. -/
def itemTokens : List NormalForm → List (Option String)
  | [] => []
  | x :: xs => x.tokens ++ itemTokens xs
/-- The number texts of member values. -/
def memberTokens : List (String × NormalForm) → List (Option String)
  | [] => []
  | (_, v) :: ms => v.tokens ++ memberTokens ms
end

/-- Every number has a canonical text. -/
def Complete (n : NormalForm) : Prop := none ∉ n.tokens

mutual
/-- The normal form of a value under canonicalization options. -/
def of (o : CanonicalOptions) : Value → NormalForm
  | .null => .null
  | .bool b => .bool b
  | .number n => .number (canonicalNumber n o.decimals).toOption
  | .string s => .string (o.text s)
  | .array xs => .array (ofItems o xs)
  | .object ms => .object (Value.keyedOf (ofMembers o ms))
/-- Normal forms of array elements. -/
def ofItems (o : CanonicalOptions) : List Value → List NormalForm
  | [] => []
  | x :: xs => of o x :: ofItems o xs
/-- Normal forms of members, under their normalized keys, in source order. -/
def ofMembers (o : CanonicalOptions) : List (String × Value) → List (String × NormalForm)
  | [] => []
  | (k, v) :: ms => (o.text k, of o v) :: ofMembers o ms
end

/-! ## Lists written with `map` -/

theorem itemChars_eq_map (xs : List NormalForm) : itemChars xs = xs.map chars := by
  induction xs with
  | nil => rfl
  | cons x xs ih => simp [itemChars, ih]

theorem memberChars_eq_map (ms : List (String × NormalForm)) :
    memberChars ms = ms.map fun e => (quote e.1).toList ++ ':' :: e.2.chars := by
  induction ms with
  | nil => rfl
  | cons e ms ih => simp [memberChars, ih]

theorem itemTokens_eq (xs : List NormalForm) : itemTokens xs = (xs.map tokens).flatten := by
  induction xs with
  | nil => rfl
  | cons x xs ih => simp [itemTokens, ih]

theorem memberTokens_eq (ms : List (String × NormalForm)) :
    memberTokens ms = (ms.map fun e => e.2.tokens).flatten := by
  induction ms with
  | nil => rfl
  | cons e ms ih => simp [memberTokens, ih]

theorem ofItems_eq_map (o : CanonicalOptions) (xs : List Value) : ofItems o xs = xs.map (of o) := by
  induction xs with
  | nil => rfl
  | cons x xs ih => simp [ofItems, ih]

theorem ofMembers_eq_map (o : CanonicalOptions) (ms : List (String × Value)) :
    ofMembers o ms = (ms.map fun e => (o.text e.1, e.2)).map fun e => (e.1, of o e.2) := by
  induction ms with
  | nil => rfl
  | cons e ms ih => simp [ofMembers, ih]

theorem of_object (o : CanonicalOptions) (ms : List (String × Value)) :
    of o (.object ms) =
      .object ((Value.keyedOf (ms.map fun e => (o.text e.1, e.2))).map fun e => (e.1, of o e.2)) := by
  rw [of, ofMembers_eq_map, Value.keyedOf_map]

/-! ## Completeness and text, constructor by constructor -/

@[simp] theorem complete_array (xs : List NormalForm) :
    (NormalForm.array xs).Complete ↔ ∀ x ∈ xs, x.Complete := by
  simp [Complete, tokens, itemTokens_eq]

@[simp] theorem complete_object (ms : List (String × NormalForm)) :
    (NormalForm.object ms).Complete ↔ ∀ e ∈ ms, e.2.Complete := by
  simp [Complete, tokens, memberTokens_eq]

theorem text_toList (n : NormalForm) : n.text.toList = n.chars := by
  simp [text]

theorem text_array (xs : List NormalForm) :
    (NormalForm.array xs).text = "[" ++ ",".intercalate (xs.map text) ++ "]" := by
  rw [← String.toList_inj]
  simp [text_toList, chars, itemChars_eq_map, Function.comp_def]

theorem text_object (ms : List (String × NormalForm)) :
    (NormalForm.object ms).text =
      "\x7b" ++ ",".intercalate (ms.map fun e => quote e.1 ++ ":" ++ e.2.text) ++ "\x7d" := by
  rw [← String.toList_inj]
  simp [text_toList, chars, memberChars_eq_map, Function.comp_def]

end NormalForm

/-! ## Collecting texts -/

theorem collectAll_cons (x : Except CanonError String) (xs : List (Except CanonError String)) :
    collectAll (x :: xs) = x.bind fun a => (collectAll xs).map (a :: ·) := by
  cases x <;> simp only [collectAll, bind, Except.bind, Except.map, pure, Except.pure]

theorem collectAll_eq_ok_iff (xs : List (Except CanonError String)) (ts : List String) :
    collectAll xs = .ok ts ↔ xs = ts.map .ok := by
  induction xs generalizing ts with
  | nil => cases ts <;> simp [collectAll]
  | cons x xs ih =>
    rw [collectAll_cons]
    cases x with
    | error e => cases ts <;> simp [Except.bind]
    | ok a =>
      cases ts with
      | nil => cases collectAll xs <;> simp [Except.bind, Except.map]
      | cons t ts =>
        rw [List.map_cons, List.cons.injEq, Except.ok.injEq, ← ih ts]
        cases collectAll xs <;> simp [Except.bind, Except.map]

theorem except_map_eq_ok_iff {ε α β : Type} (f : α → β) (e : Except ε α) (b : β) :
    e.map f = .ok b ↔ ∃ a, e = .ok a ∧ f a = b := by
  cases e <;> simp [Except.map]

theorem joinAll_eq_ok_iff (xs : List (Except CanonError String)) (s : String) :
    joinAll xs = .ok s ↔ ∃ ts, xs = ts.map .ok ∧ s = ",".intercalate ts := by
  rw [joinAll, except_map_eq_ok_iff]
  simp only [collectAll_eq_ok_iff]
  exact exists_congr fun ts => and_congr_right fun _ => eq_comm

theorem map_eq_map_ok_iff {α : Type} (l : List α) (f : α → Except CanonError String)
    (C : α → Prop) (g : α → String) (hf : ∀ a ∈ l, ∀ s, f a = .ok s ↔ C a ∧ s = g a)
    (ts : List String) : l.map f = ts.map .ok ↔ (∀ a ∈ l, C a) ∧ ts = l.map g := by
  induction l generalizing ts with
  | nil => cases ts <;> simp
  | cons a l ih =>
    have hl : ∀ a ∈ l, ∀ s, f a = .ok s ↔ C a ∧ s = g a := fun a ha => hf a (by simp [ha])
    cases ts with
    | nil => simp
    | cons t ts =>
      simp only [List.map_cons, List.cons.injEq, hf a (by simp), ih hl, List.forall_mem_cons]
      tauto

theorem joinAll_map_eq_ok_iff {α : Type} (l : List α) (f : α → Except CanonError String)
    (C : α → Prop) (g : α → String) (hf : ∀ a ∈ l, ∀ s, f a = .ok s ↔ C a ∧ s = g a)
    (s : String) : joinAll (l.map f) = .ok s ↔ (∀ a ∈ l, C a) ∧ s = ",".intercalate (l.map g) := by
  rw [joinAll_eq_ok_iff]
  constructor
  · rintro ⟨ts, hts, rfl⟩
    obtain ⟨hc, rfl⟩ := (map_eq_map_ok_iff l f C g hf ts).mp hts
    exact ⟨hc, rfl⟩
  · rintro ⟨hc, rfl⟩
    exact ⟨_, (map_eq_map_ok_iff l f C g hf _).mpr ⟨hc, rfl⟩, rfl⟩

theorem canonicalItems_eq_map (o : CanonicalOptions) (xs : List Value) :
    canonicalItems o xs = xs.map (canonicalize o) := by
  induction xs with
  | nil => rfl
  | cons x xs ih => simp [canonicalItems, ih]

theorem canonicalMembers_eq_map (o : CanonicalOptions) (ms : List (String × Value)) :
    canonicalMembers o ms =
      (ms.map fun e => (o.text e.1, e.2)).map fun e => (e.1, canonicalize o e.2) := by
  induction ms with
  | nil => rfl
  | cons e ms ih => simp [canonicalMembers, ih]

theorem canonicalize_object (o : CanonicalOptions) (ms : List (String × Value)) :
    canonicalize o (.object ms) =
      (joinAll ((Value.keyedOf (ms.map fun e => (o.text e.1, e.2))).map fun e =>
        (canonicalize o e.2).map fun s => quote e.1 ++ ":" ++ s)).map
        fun s => "\x7b" ++ s ++ "\x7d" := by
  rw [canonicalize, canonicalMembers_eq_map, Value.keyedOf_map, List.map_map]
  rfl

/-! ## Canonical text is the written normal form -/

section
open NormalForm

theorem canonicalize_array_iff (o : CanonicalOptions) (xs : List Value)
    (ih : ∀ x ∈ xs, ∀ s, canonicalize o x = .ok s ↔ (of o x).Complete ∧ s = (of o x).text)
    (s : String) :
    canonicalize o (.array xs) = .ok s ↔ (of o (.array xs)).Complete ∧ s = (of o (.array xs)).text := by
  simp only [canonicalize, canonicalItems_eq_map, except_map_eq_ok_iff,
    joinAll_map_eq_ok_iff xs (canonicalize o) _ _ ih, of, ofItems_eq_map, complete_array,
    List.forall_mem_map, text_array, List.map_map, Function.comp_def]
  constructor
  · rintro ⟨_, ⟨hc, rfl⟩, rfl⟩
    exact ⟨hc, rfl⟩
  · rintro ⟨hc, rfl⟩
    exact ⟨_, ⟨hc, rfl⟩, rfl⟩

theorem canonicalize_object_iff (o : CanonicalOptions) (ms : List (String × Value))
    (ih : ∀ m ∈ ms, ∀ s, canonicalize o m.2 = .ok s ↔ (of o m.2).Complete ∧ s = (of o m.2).text)
    (s : String) :
    canonicalize o (.object ms) = .ok s ↔
      (of o (.object ms)).Complete ∧ s = (of o (.object ms)).text := by
  have ihK : ∀ e ∈ Value.keyedOf (ms.map fun e => (o.text e.1, e.2)), ∀ s,
      (canonicalize o e.2).map (fun s => quote e.1 ++ ":" ++ s) = .ok s ↔
        (of o e.2).Complete ∧ s = quote e.1 ++ ":" ++ (of o e.2).text := by
    intro e he s
    obtain ⟨m, hm, rfl⟩ := List.mem_map.mp (Value.mem_of_mem_keyedOf he)
    simp only [except_map_eq_ok_iff, ih m hm]
    constructor
    · rintro ⟨_, ⟨hc, rfl⟩, rfl⟩
      exact ⟨hc, rfl⟩
    · rintro ⟨hc, rfl⟩
      exact ⟨_, ⟨hc, rfl⟩, rfl⟩
  rw [canonicalize_object, except_map_eq_ok_iff, of_object, complete_object, text_object]
  simp only [joinAll_map_eq_ok_iff _ _ _ _ ihK, List.forall_mem_map, List.map_map,
    Function.comp_def]
  constructor
  · rintro ⟨_, ⟨hc, rfl⟩, rfl⟩
    exact ⟨hc, rfl⟩
  · rintro ⟨hc, rfl⟩
    exact ⟨_, ⟨hc, rfl⟩, rfl⟩

/-- Canonical text is the written normal form, and exists exactly when every number of
the normal form has a text. -/
theorem canonicalize_eq_ok_iff (o : CanonicalOptions) (v : Value) (s : String) :
    canonicalize o v = .ok s ↔ (of o v).Complete ∧ s = (of o v).text := by
  induction v using Value.induction generalizing s with
  | null => simp [canonicalize, of, Complete, tokens, text, chars, eq_comm]
  | bool b => cases b <;> simp [canonicalize, of, Complete, tokens, text, chars, eq_comm]
  | number n =>
    cases h : canonicalNumber n o.decimals <;>
      simp [canonicalize, of, Complete, tokens, text, chars, h, Except.toOption, eq_comm]
  | string t => simp [canonicalize, of, Complete, tokens, text, chars, eq_comm]
  | array xs ih => exact canonicalize_array_iff o xs ih s
  | object ms ih => exact canonicalize_object_iff o ms ih s

end

end CapsuleFlow
