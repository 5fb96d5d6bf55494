import Mathlib
import CapsuleFlow.Proofs.PolicyGovernance
import CapsuleFlow.Proofs.DigestCodec

/-!
# Hashed trace entries

A step that hashes its capsule records three things in its trace entry: the canonical
text, the digest in hex, and the capsule identifier `cap_<hex>`. A step that does not
hash records none of them. `CapsuleMeta.HashedAs` says so of one entry's metadata, with
the form of what is recorded: the hex has two lowercase digits per digest byte, as many
bytes as the hashing options ask for, and the identifier is the hex behind its prefix and
is accepted when read back as a capsule identifier.

Every entry the trace builder returns has this form under any hashing options that
`HashOptions.new` accepts (`Runner.buildEntry_hashedAs`). The digest lengths come from
the hash functions themselves: BLAKE3 reads exactly the requested number of output
bytes, SHA-256 always gives 32. In a run, then, a hashed policy assertion always has an
identifier, so one that passes the observer's checks is put in force
(`built_entries_hashed_alike`).
-/

namespace CapsuleFlow

namespace Hash

theorem size_blake3Compress (cv block : Array UInt32) (counter blockLen : Nat) (flags : UInt32) :
    (blake3Compress cv block counter blockLen flags).size = 16 := by
  simp [blake3Compress]

theorem length_bytesLE (w : UInt32) : (bytesLE w).length = 4 := rfl

theorem length_blake3 (msg : List UInt8) (n : Nat) : (blake3 msg n).length = n := by
  unfold blake3
  rw [List.length_take]
  simp only [List.length_flatMap, List.length_range, length_bytesLE, List.map_const',
    List.sum_replicate, Array.length_toList, size_blake3Compress, smul_eq_mul]
  omega

theorem size_sha256Block (state : Array UInt32) (block : List UInt8) :
    (sha256Block state block).size = 8 := by
  simp [sha256Block]

theorem length_sha256 (msg : List UInt8) : (sha256 msg).length = 32 := by
  have hsize : ∀ (blocks : List (List UInt8)) (s : Array UInt32), s.size = 8 →
      (blocks.foldl sha256Block s).size = 8 := by
    intro blocks
    induction blocks with
    | nil => exact fun _ h => h
    | cons b bs ih => exact fun s _ => ih _ (size_sha256Block s b)
  simp only [sha256, List.length_flatMap, bytesBE, List.length_cons, List.length_nil]
  simp [hsize _ sha256Initial rfl]

end Hash

/-- Hashing options as `HashOptions.new` makes them: BLAKE3 with 1 to 64 bytes, or
SHA-256 with 32. -/
def HashOptions.Valid (o : HashOptions) : Prop :=
  ∃ alg length, HashOptions.new alg length = .ok o

theorem HashOptions.Valid.cases {o : HashOptions} (h : o.Valid) :
    (o.algorithm = .blake3 ∧ 0 < o.digestLength ∧ o.digestLength ≤ blake3MaxLength) ∨
      o = HashOptions.sha256 := by
  obtain ⟨alg, length, h⟩ := h
  cases alg with
  | blake3 =>
    simp only [HashOptions.new] at h
    split at h
    · cases h
    · rename_i hn
      cases h
      simp only [Bool.or_eq_true, beq_iff_eq, decide_eq_true_eq, not_or, not_lt] at hn
      exact .inl ⟨rfl, Nat.pos_of_ne_zero hn.1, hn.2⟩
  | sha256 =>
    simp only [HashOptions.new] at h
    split at h
    · cases h
      exact .inr rfl
    · split at h
      · cases h
        exact .inr rfl
      · cases h

theorem HashOptions.Valid.length_digestBytes {o : HashOptions} (h : o.Valid) (bytes : List UInt8) :
    0 < o.digestLength ∧ (digestBytes o bytes).length = o.digestLength := by
  rcases h.cases with ⟨halg, hpos, -⟩ | rfl
  · exact ⟨hpos, by simp [digestBytes, halg, ContentDigest.length, Hash.length_blake3]⟩
  · exact ⟨by decide, by simp [digestBytes, HashOptions.sha256, ContentDigest.length,
      Hash.length_sha256, sha256Length]⟩

/-- What a trace entry records of a capsule's hashing: the canonical text, the hex digest
and the capsule identifier are all there exactly when the step hashed, the hex has two
lowercase digits for each of the digest bytes the options ask for, and the identifier is
the hex behind `cap_`, accepted when read back as a capsule identifier. -/
structure CapsuleMeta.HashedAs (o : HashOptions) (hashed : Bool) (m : CapsuleMeta) : Prop where
  canonical : m.canonicalJson.isSome = hashed
  hex : m.hashHex.isSome = hashed
  id : m.capsuleHash.isSome = hashed
  hex_form : ∀ hex, m.hashHex = some hex →
    hex.length = 2 * o.digestLength ∧ isLowerHex hex = true ∧ m.capsuleHash = some ("cap_" ++ hex)
  id_parses : ∀ id, m.capsuleHash = some id → Role.capsule.parseId id = some id

theorem CapsuleMeta.hashedAs_plain (o : HashOptions) (t : CapsuleType) (p : String) :
    ({ capsuleType := t, capsulePath := p } : CapsuleMeta).HashedAs o false :=
  ⟨rfl, rfl, rfl, (fun _ h => by cases h), (fun _ h => by cases h)⟩

theorem CapsuleMeta.hashedAs_digest {o : HashOptions} (hv : o.Valid) (t : CapsuleType)
    (p text : String) :
    ({ capsuleType := t, capsulePath := p, canonicalJson := some text
       hashHex := some (digestText o text).hex
       capsuleHash := some (Role.capsule.idOf (digestText o text)) } : CapsuleMeta).HashedAs o true := by
  obtain ⟨hpos, hlen⟩ := hv.length_digestBytes (text.toUTF8.toList)
  have hbytes : (digestText o text).bytes ≠ [] := by
    intro h
    have : (digestText o text).length = 0 := by simp [ContentDigest.length, h]
    simp only [digestText] at this
    omega
  have hhex : isLowerHex (digestText o text).hex = true := Hash.isLowerHex_toHex hbytes
  refine ⟨rfl, rfl, rfl, fun hex h => ?_, fun id h => ?_⟩
  · cases h
    refine ⟨?_, hhex, rfl⟩
    have hlen' : (digestText o text).bytes.length = o.digestLength := hlen
    rw [ContentDigest.hex, Hash.length_toHex, hlen']
  · cases h
    exact Role.parseId_prefixed .capsule hhex

namespace Runner

variable {m : Type → Type} [Monad m] [LawfulMonad m] [MonadLog m]

/-- Every entry the trace builder returns records the hashing of its capsule as
`CapsuleMeta.HashedAs` says, under valid options. -/
theorem buildEntry_hashedAs (r : Runner m) (hv : r.hash.Valid) (i : Nat) (step : FlowStep)
    (baseDir : String) :
    SatisfiesM (fun x => ∀ e c, x = .ok (e, c) → e.capsule.HashedAs r.hash step.computeHashes)
      (r.buildEntry i step baseDir) := by
  unfold buildEntry
  refine SatisfiesM.bind_pre (SatisfiesM.of_true fun path => ?_)
  refine SatisfiesM.bind_pre (SatisfiesM.of_true fun doc => ?_)
  split
  · simp only [pure_bind]
    split
    · split
      · exact SatisfiesM.pure (by simp)
      · rename_i heq
        refine satisfiesM_bind_const _ (SatisfiesM.pure ?_)
        simp only [Except.ok.injEq, Prod.mk.injEq, and_imp]
        rintro e c rfl -
        split at heq
        · rename_i hhash
          split at heq
          · cases heq
          · split at heq
            · cases heq
            · cases heq
              rw [hhash]
              exact CapsuleMeta.hashedAs_digest hv _ _ _
        · rename_i hhash
          cases heq
          rw [Bool.not_eq_true] at hhash
          rw [hhash]
          exact CapsuleMeta.hashedAs_plain _ _ _
    · exact SatisfiesM.pure (by simp)
  · exact SatisfiesM.pure (by simp)

end Runner

/-- A hashed policy assertion that names a policy never revoked and an accepted consent as
its authority is put in force under the entry's identifier, with no failure, when the
entry carries an identifier exactly when it is hashed. -/
theorem PolicyView.observe_assertion_activates (v : PolicyView) {e : TraceEntry} {p a : String}
    (he : e.HashConsistent) (hh : e.isHashed = true) (hev : e.event = .policyAssertion (some p) (some a))
    (hfresh : p ∉ v.revoked) (hauth : a ∈ v.activeConsents) :
    ∃ h, e.capsuleHash = some h ∧
      v.observe e = ({ v with activePolicies := Json.Value.insertKeyed p ⟨h, a⟩ v.activePolicies }, []) := by
  obtain ⟨h, hc⟩ := Option.isSome_iff_exists.mp (he.trans hh)
  refine ⟨h, hc, ?_⟩
  rw [observe_assertion v hh hev]
  simp [PolicyView.assertPolicy, hfresh, hauth, hc]

/-- Trace entries are hashed consistently. Under valid hashing options every entry the
trace builder returns records its canonical text, hex digest and capsule identifier together,
exactly when its step hashes; the hex is two lowercase digits for each digest byte the
options ask for, and the identifier is the hex behind `cap_` and reads back as a capsule
identifier. In every run, accordingly, a hashed policy assertion that passes the observer's
checks always has an identifier and is put in force under it. -/
theorem built_entries_hashed_alike {m : Type → Type} [Monad m] [LawfulMonad m] [MonadLog m]
    (r : Runner m) (hv : r.hash.Valid) :
    (∀ i step baseDir, SatisfiesM
      (fun x => ∀ e c, x = .ok (e, c) → e.capsule.HashedAs r.hash step.computeHashes)
      (r.buildEntry i step baseDir)) ∧
    ∀ flow baseDir, SatisfiesM
      (fun res : RunResult => ∀ e ∈ res.trace, ∀ (v : PolicyView) p a, e.isHashed = true →
        e.event = .policyAssertion (some p) (some a) → p ∉ v.revoked → a ∈ v.activeConsents →
        ∃ h, e.capsuleHash = some h ∧
          v.observe e = ({ v with activePolicies := Json.Value.insertKeyed p ⟨h, a⟩ v.activePolicies }, []))
      (r.run flow baseDir) := by
  refine ⟨r.buildEntry_hashedAs hv, fun flow baseDir => ?_⟩
  refine (r.run_replayed flow baseDir).imp fun hres e he v p a hh hev hfresh hauth => ?_
  exact v.observe_assertion_activates (hres.consistent e he) hh hev hfresh hauth

/-- SHA-256 options are valid, and a run over a store in memory under them hashes its
entries consistently. -/
theorem built_entries_hashed_alike_sha256 :
    HashOptions.sha256.Valid ∧
    (∀ i step baseDir, SatisfiesM (m := Id)
      (fun x => ∀ e c, x = .ok (e, c) → e.capsule.HashedAs HashOptions.sha256 step.computeHashes)
      (({ store := MemoryStore.toStore {}, hash := HashOptions.sha256 } : Runner Id).buildEntry
        i step baseDir)) ∧
    ∀ flow baseDir, SatisfiesM (m := Id)
      (fun res : RunResult => ∀ e ∈ res.trace, ∀ (v : PolicyView) p a, e.isHashed = true →
        e.event = .policyAssertion (some p) (some a) → p ∉ v.revoked → a ∈ v.activeConsents →
        ∃ h, e.capsuleHash = some h ∧
          v.observe e = ({ v with activePolicies := Json.Value.insertKeyed p ⟨h, a⟩ v.activePolicies }, []))
      (({ store := MemoryStore.toStore {}, hash := HashOptions.sha256 } : Runner Id).run flow baseDir) :=
  have hv : HashOptions.sha256.Valid := ⟨.sha256, none, rfl⟩
  ⟨hv, built_entries_hashed_alike { store := MemoryStore.toStore {}, hash := HashOptions.sha256 } hv⟩

end CapsuleFlow
