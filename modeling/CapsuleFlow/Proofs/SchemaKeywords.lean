import CapsuleFlow.Proofs.Keyed
import CapsuleFlow.Schema.Registry

/-!
# What the shape keywords of a schema guarantee

A value without violations against an object schema has none against each keyword of the
schema that applies in its scope (`violations_keyword`). Five keywords describe the shape
of a document: `type`, `minLength`, `required`, `properties` and `items`. For each, no
violation says what the value is: of the named type, at least as long as the limit, with
the required members, each listed member accepted by its subschema, each item accepted by
the item schema. These keywords apply in every draft once all vocabularies are in force,
which is what a schema's `$schema` naming draft 2020-12 gives.

Schemas written as `Value.obj` members are reached through `withKey`: the member a keyword
has is its last one (`violations_obj_keyword`), which evaluates on closed schemas. A document
that a schema set validates passes the check of a validator rooted at the named schema
(`SchemaSet.check_of_validateDocument`, `SchemaSet.build_root`).
-/

namespace CapsuleFlow.Schema

open CapsuleFlow.Json

/-- The keywords that describe the shape of a document. -/
def shapeKeywords : List String := ["items", "minLength", "properties", "required", "type"]

theorem Scope.allows_of_shapeKeyword {sc : Scope} (hv : sc.vocabularies = {}) {k : String}
    (hk : k ∈ shapeKeywords) : sc.allows k = true := by
  obtain ⟨base, draft, vocab⟩ := sc
  obtain rfl : vocab = {} := hv
  simp only [shapeKeywords, List.mem_cons, List.not_mem_nil, or_false] at hk
  rcases hk with rfl | rfl | rfl | rfl | rfl <;> cases draft <;> rfl

theorem Scope.mem_keywords {sc : Scope} {kws : List (String × Value)} {k : String} {v : Value}
    (hkv : (k, v) ∈ kws) (hk : sc.allows k = true) (href : kws.lookup "$ref" = none) :
    (k, v) ∈ sc.keywords kws := by
  simp [Scope.keywords, href, hkv, hk]

section Keywords

variable {reg : Registry} {sc : Scope} {sp ip : List String} {inst : Value}

/-- No violation against an object schema means none against each keyword that applies. -/
theorem violations_keyword {n : Nat} {kws : List (String × Value)}
    (h : violations reg (n + 1) sc (.object kws) sp inst ip = []) {k : String} {v : Value}
    (hkv : (k, v) ∈ kws) (hk : sc.allows k = true) (href : kws.lookup "$ref" = none) :
    keywordViolations (violations reg n) reg (sc.enter (.object kws)) kws k v sp inst ip = [] :=
  List.flatMap_eq_nil_iff.mp h (k, v) (@Scope.mem_keywords (sc.enter (.object kws)) kws k v hkv hk href)

/-- The same for a schema written as members: the keyword's value is its last member. -/
theorem violations_obj_keyword {n : Nat} {l : List (String × Value)}
    (h : violations reg (n + 1) sc (Value.obj l) sp inst ip = []) {k : String} {v : Value}
    (hkv : (Value.withKey k l).getLast? = some (k, v)) (hk : sc.allows k = true)
    (href : Value.withKey "$ref" l = []) :
    keywordViolations (violations reg n) reg (sc.enter (Value.obj l)) (Value.membersOf l) k v sp
      inst ip = [] :=
  violations_keyword h ((Value.mem_keyedOf l (k, v)).mpr hkv) hk (Value.lookup_keyedOf_eq_none href)

variable {sub : SubCheck} {parent : List (String × Value)}

theorem hasType_of_type {t : String}
    (h : keywordViolations sub reg sc parent "type" (.string t) sp inst ip = []) :
    hasType inst t = true := by
  change @ite _ _ _ [] _ = [] at h
  simpa using h

theorem lookup_isSome_of_required {names : List Value} {ms : List (String × Value)}
    (h : keywordViolations sub reg sc parent "required" (.array names) sp (.object ms) ip = [])
    {n : String} (hn : .string n ∈ names) : (ms.lookup n).isSome := by
  change List.filterMap _ (names.filterMap Value.str?) = [] at h
  have hmissing := List.filterMap_eq_nil_iff.mp h n (List.mem_filterMap.mpr ⟨_, hn, rfl⟩)
  simp only [ite_eq_left_iff, reduceCtorEq, imp_false, not_not] at hmissing
  obtain ⟨x, hx, hxn⟩ := List.any_eq_true.mp hmissing
  exact List.lookup_isSome_iff.mpr ⟨x, hx, beq_iff_eq.mpr (beq_iff_eq.mp hxn).symm⟩

theorem properties_member {ps ms : List (String × Value)}
    (h : keywordViolations sub reg sc parent "properties" (.object ps) sp (.object ms) ip = [])
    (hadd : parent.lookup "additionalProperties" = none) {name : String} {val : Value}
    (hval : ms.lookup name = some val) {s : Value} (hs : (name, s) ∈ ps) :
    sub sc s (sp ++ ["properties"] ++ [name]) val (ip ++ [name]) = [] := by
  change @ite _ _ _ [] (List.flatMap _ ps) = [] at h
  rw [hadd] at h
  simp only [Bool.false_eq_true, if_false, List.flatMap_eq_nil_iff] at h
  have hmember := h (name, s) hs
  simp only [hval] at hmember
  exact hmember

theorem items_item {is : List (String × Value)} {xs : List Value}
    (h : keywordViolations sub reg sc parent "items" (.object is) sp (.array xs) ip = [])
    (hpre : parent.lookup "prefixItems" = none) {x : Value} (hx : x ∈ xs) :
    ∃ ip', sub sc (.object is) (sp ++ ["items"]) x ip' = [] := by
  change List.flatMap _ (List.drop _ xs.zipIdx) = [] at h
  rw [hpre, List.drop_zero] at h
  obtain ⟨i, hi⟩ := List.mem_iff_getElem?.mp hx
  have hmem : (x, i) ∈ xs.zipIdx := List.mem_zipIdx_iff_getElem?.mpr hi
  exact ⟨_, List.flatMap_eq_nil_iff.mp h (x, i) hmem⟩

/-! ### Schemas written as members -/

variable {n : Nat} {l : List (String × Value)}

theorem hasType_of_obj (h : violations reg (n + 1) sc (Value.obj l) sp inst ip = [])
    (hv : sc.vocabularies = {}) {t : String}
    (ht : (Value.withKey "type" l).getLast? = some ("type", .string t))
    (href : Value.withKey "$ref" l = []) : hasType inst t = true :=
  hasType_of_type (violations_obj_keyword h ht (Scope.allows_of_shapeKeyword hv (by decide)) href)

theorem lookup_isSome_of_obj_required {ms : List (String × Value)}
    (h : violations reg (n + 1) sc (Value.obj l) sp (.object ms) ip = [])
    (hv : sc.vocabularies = {}) {names : List Value}
    (hreq : (Value.withKey "required" l).getLast? = some ("required", .array names))
    (href : Value.withKey "$ref" l = []) {k : String} (hk : .string k ∈ names) :
    (ms.lookup k).isSome :=
  lookup_isSome_of_required
    (violations_obj_keyword h hreq (Scope.allows_of_shapeKeyword hv (by decide)) href) hk

theorem violations_of_obj_property {ms : List (String × Value)}
    (h : violations reg (n + 1) sc (Value.obj l) sp (.object ms) ip = [])
    (hv : sc.vocabularies = {}) {props : List (String × Value)}
    (hps : (Value.withKey "properties" l).getLast? = some ("properties", Value.obj props))
    (hadd : Value.withKey "additionalProperties" l = []) (href : Value.withKey "$ref" l = [])
    {name : String} {val : Value} (hval : ms.lookup name = some val) {s : Value}
    (hs : (Value.withKey name props).getLast? = some (name, s)) :
    violations reg n (sc.enter (Value.obj l)) s (sp ++ ["properties"] ++ [name]) val
      (ip ++ [name]) = [] :=
  properties_member
    (violations_obj_keyword h hps (Scope.allows_of_shapeKeyword hv (by decide)) href)
    (Value.lookup_keyedOf_eq_none hadd) hval ((Value.mem_keyedOf props (name, s)).mpr hs)

theorem violations_of_obj_item {xs : List Value}
    (h : violations reg (n + 1) sc (Value.obj l) sp (.array xs) ip = [])
    (hv : sc.vocabularies = {}) {il : List (String × Value)}
    (hitems : (Value.withKey "items" l).getLast? = some ("items", Value.obj il))
    (hpre : Value.withKey "prefixItems" l = []) (href : Value.withKey "$ref" l = [])
    {x : Value} (hx : x ∈ xs) :
    ∃ ip', violations reg n (sc.enter (Value.obj l)) (Value.obj il) (sp ++ ["items"]) x ip' = [] :=
  items_item (violations_obj_keyword h hitems (Scope.allows_of_shapeKeyword hv (by decide)) href)
    (Value.lookup_keyedOf_eq_none hpre) hx

end Keywords

/-! ## Types -/

theorem hasType_string {v : Value} (h : hasType v "string" = true) : ∃ s, v = .string s := by
  cases v <;> simp_all [hasType]

theorem hasType_boolean {v : Value} (h : hasType v "boolean" = true) : ∃ b, v = .bool b := by
  cases v <;> simp_all [hasType]

theorem hasType_object {v : Value} (h : hasType v "object" = true) : ∃ ms, v = .object ms := by
  cases v <;> simp_all [hasType]

theorem hasType_array {v : Value} (h : hasType v "array" = true) : ∃ xs, v = .array xs := by
  cases v <;> simp_all [hasType]

/-! ## Validators of a schema set -/

/-- A validator built from a set is rooted at the schema of its name. -/
theorem SchemaSet.build_root {s : SchemaSet} {name : String} {v : Validator}
    (h : s.build name = .ok v) : s.get? name = some v.root := by
  unfold SchemaSet.build at h
  cases hget : s.get? name with
  | none =>
    rw [hget] at h
    cases h
  | some root =>
    rw [hget] at h
    dsimp only at h
    split at h
    · cases h
    · split at h
      · cases h
      · split at h
        · cases h
        · cases h
          rfl

theorem SchemaSet.check_of_validateDocument {s : SchemaSet} {doc : Value} {name : String}
    (h : s.validateDocument doc name = .ok ()) : ∃ v, s.build name = .ok v ∧ v.check doc = [] := by
  unfold SchemaSet.validateDocument at h
  cases hb : s.build name with
  | error e =>
    rw [hb] at h
    cases h
  | ok v =>
    rw [hb] at h
    refine ⟨v, rfl, ?_⟩
    dsimp only [bind, Except.bind] at h
    split at h
    · assumption
    · cases h

end CapsuleFlow.Schema
