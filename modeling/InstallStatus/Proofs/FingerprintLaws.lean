import Mathlib
import InstallStatus.Proofs.WrittenText
import InstallStatus.Resource.Fingerprint

/-!
What the fingerprint of an instance tells. The same octets are hashed of two instances if and only if they
agree in their generation and, but for the times of observation, in their status. Their fingerprints are the
same if they agree, and otherwise only by a collision of the hash.
-/

namespace InstallStatus

namespace Fingerprint

theorem length_wordOctets (word : UInt64) : (wordOctets word).length = 8 := by
  simp only [wordOctets, List.length_map, List.length_range]

/-- The octets of a word are its digits to the base 256. -/
theorem toNat_octet (word : UInt64) {i : Nat} (bound : i < 8) :
    (word >>> (8 * i.toUInt64)).toUInt8.toNat = word.toNat / 256 ^ i % 256 := by
  have shift : (8 * i.toUInt64).toNat % 64 = 8 * i := by
    simp [UInt64.toNat_mul]
    omega
  rw [UInt64.toNat_toUInt8, UInt64.toNat_shiftRight, shift, Nat.shiftRight_eq_div_pow, pow_mul]
  rfl

/-- Numbers below a power of the base are determined by as many digits. The induction splits off the
lowest. -/
theorem eq_of_octets {m n : Nat} (count : Nat) (first : m < 256 ^ count) (second : n < 256 ^ count)
    (octets : ∀ i < count, m / 256 ^ i % 256 = n / 256 ^ i % 256) : m = n := by
  induction count generalizing m n with
  | zero =>
    rw [pow_zero] at first second
    omega
  | succ count ih =>
    have low : m % 256 = n % 256 := by simpa using octets 0 (Nat.succ_pos _)
    have high : m / 256 = n / 256 := by
      rw [pow_succ] at first second
      refine ih (Nat.div_lt_of_lt_mul (by omega)) (Nat.div_lt_of_lt_mul (by omega)) fun i bound => ?_
      have next := octets (i + 1) (Nat.succ_lt_succ bound)
      rwa [pow_succ', ← Nat.div_div_eq_div_mul, ← Nat.div_div_eq_div_mul] at next
    omega

theorem wordOctets_injective : Function.Injective wordOctets := by
  intro a b same
  refine UInt64.toNat_inj.mp (eq_of_octets 8 a.toNat_lt b.toNat_lt fun i bound => ?_)
  rw [← toNat_octet a bound, ← toNat_octet b bound]
  exact congrArg UInt8.toNat (List.map_inj_left.mp same i (List.mem_range.mpr bound))

/-- A word has a fixed width, so it is told from whatever is behind it. -/
theorem wordOctets_append_inj {a b : UInt64} {r s : List UInt8}
    (same : wordOctets a ++ r = wordOctets b ++ s) : a = b ∧ r = s := by
  obtain ⟨words, rest⟩ :=
    List.append_inj same ((length_wordOctets a).trans (length_wordOctets b).symm)
  exact ⟨wordOctets_injective words, rest⟩

/-- The first word says whether a second one follows, so no generation is taken for the beginning of a
status. -/
theorem generationOctets_append_inj {a b : Option Int64} {r s : List UInt8}
    (same : generationOctets a ++ r = generationOctets b ++ s) : a = b ∧ r = s := by
  cases a with
  | none =>
    cases b with
    | none => exact ⟨rfl, List.append_cancel_left same⟩
    | some n =>
      rw [generationOctets, generationOctets, List.append_assoc] at same
      exact absurd (wordOctets_append_inj same).1 (by decide)
  | some m =>
    cases b with
    | none =>
      rw [generationOctets, generationOctets, List.append_assoc] at same
      exact absurd (wordOctets_append_inj same).1 (by decide)
    | some n =>
      rw [generationOctets, generationOctets, List.append_assoc, List.append_assoc] at same
      obtain ⟨words, rest⟩ := wordOctets_append_inj (List.append_cancel_left same)
      exact ⟨congrArg some (Int64.toBitVec_inj.mp (congrArg UInt64.toBitVec words)), rest⟩

theorem toList_loop (octets : ByteArray) (i : Nat) (read : List UInt8) :
    ByteArray.toList.loop octets i read = read.reverse ++ octets.data.toList.drop i := by
  fun_induction ByteArray.toList.loop octets i read with
  | case1 i read bound ih =>
    have inside : i < octets.data.toList.length := by simpa using bound
    rw [ih, List.drop_eq_getElem_cons inside]
    simp [ByteArray.get!, bound]
  | case2 i read bound =>
    rw [List.drop_eq_nil_of_le (by simpa using Nat.le_of_not_lt bound), List.append_nil]

theorem toList_toUTF8_injective : Function.Injective fun text : String => text.toUTF8.toList := by
  intro a b same
  have octets (bytes : ByteArray) : bytes.toList = bytes.data.toList := by
    rw [ByteArray.toList, toList_loop]
    simp
  simp only [octets, Array.toList_inj, String.toUTF8_eq_toByteArray] at same
  exact String.toByteArray_inj.mp (ByteArray.ext same)

/-- What is hashed of a status, given that each has a text. -/
def writtenOctets (status : ClusterInstanceStatus) : List UInt8 :=
  (status.unprobed.serialize Json.inOrder).compact.toUTF8.toList ++ [0xFF]

theorem statusOctets?_eq (status : ClusterInstanceStatus) :
    statusOctets? status = some (writtenOctets status) := by
  rw [statusOctets?, ClusterInstanceStatus.text?_serialize, Option.map_some, writtenOctets]

/-- Statuses are hashed alike exactly if they differ in nothing but the times of observation. -/
theorem writtenOctets_inj {a b : ClusterInstanceStatus} :
    writtenOctets a = writtenOctets b ↔ a.unprobed = b.unprobed := by
  refine ⟨fun same => ?_, fun same => by rw [writtenOctets, same, ← writtenOctets]⟩
  exact ClusterInstanceStatus.compact_serialize_inj.mp
    (toList_toUTF8_injective (List.append_cancel_right same))

/-- A status that is missing is told from every status that is there. -/
theorem statusPart_inj {a b : Option ClusterInstanceStatus} :
    (a.map writtenOctets).getD [] = (b.map writtenOctets).getD [] ↔
      a.map ClusterInstanceStatus.unprobed = b.map ClusterInstanceStatus.unprobed := by
  have filled (status : ClusterInstanceStatus) : writtenOctets status ≠ [] :=
    List.append_ne_nil_of_right_ne_nil _ (List.cons_ne_nil _ _)
  cases a with
  | none =>
    cases b with
    | none => exact iff_of_true rfl rfl
    | some b => exact iff_of_false (filled b).symm (Option.some_ne_none _).symm
  | some a =>
    cases b with
    | none => exact iff_of_false (filled a) (Option.some_ne_none _)
    | some b =>
      simp only [Option.map_some, Option.getD_some, Option.some.injEq]
      exact writtenOctets_inj

end Fingerprint

namespace ClusterInstance

/-- Whether two instances agree in their generation and, but for the times at which the copied conditions
were last observed, in their status. -/
structure Agree (a b : ClusterInstance) : Prop where
  generation : a.metadata.generation = b.metadata.generation
  status : a.status.map ClusterInstanceStatus.unprobed = b.status.map ClusterInstanceStatus.unprobed

/-- Whether two instances of which unlike octets are hashed have the same fingerprint all the same. -/
structure Collides (hash : List UInt8 → UInt64) (a b : ClusterInstance) : Prop where
  unlike : a.octets? ≠ b.octets?
  alike : a.fingerprint? hash = b.fingerprint? hash

theorem octets?_eq (site : ClusterInstance) :
    site.octets? = some (Fingerprint.generationOctets site.metadata.generation ++
      (site.status.map Fingerprint.writtenOctets).getD []) := by
  rw [octets?]
  cases site.status with
  | none => rfl
  | some status =>
    simp only [Fingerprint.statusOctets?_eq]
    rfl

/-- Every instance has a fingerprint, since every status can be written. -/
theorem exists_fingerprint (hash : List UInt8 → UInt64) (site : ClusterInstance) :
    ∃ print, site.fingerprint? hash = some print := by
  rw [fingerprint?, octets?_eq]
  exact ⟨_, rfl⟩

/-- What the hash is given covers the generation and the status, and nothing else. -/
theorem octets?_eq_iff {a b : ClusterInstance} : a.octets? = b.octets? ↔ a.Agree b := by
  rw [octets?_eq, octets?_eq, Option.some.injEq]
  constructor
  · intro same
    obtain ⟨generation, rest⟩ := Fingerprint.generationOctets_append_inj same
    exact ⟨generation, Fingerprint.statusPart_inj.mp rest⟩
  · rintro ⟨generation, status⟩
    rw [generation, Fingerprint.statusPart_inj.mpr status]

theorem Agree.fingerprint?_eq {a b : ClusterInstance} (agree : a.Agree b) (hash : List UInt8 → UInt64) :
    a.fingerprint? hash = b.fingerprint? hash := by
  rw [fingerprint?, octets?_eq_iff.mpr agree, ← fingerprint?]

/-- Equal fingerprints mean agreement, unless the hash is to blame. -/
theorem fingerprint?_eq_iff {hash : List UInt8 → UInt64} {a b : ClusterInstance} :
    a.fingerprint? hash = b.fingerprint? hash ↔ a.Agree b ∨ a.Collides hash b := by
  constructor
  · intro same
    by_cases agree : a.Agree b
    · exact .inl agree
    · exact .inr ⟨fun octets => agree (octets?_eq_iff.mp octets), same⟩
  · rintro (agree | collides)
    · exact agree.fingerprint?_eq hash
    · exact collides.alike

/-- The hash that tells one instance from all that do not agree with it. -/
def telling (site : ClusterInstance) : List UInt8 → UInt64 := fun octets =>
  if site.octets? = some octets then 1 else 0

/-- For any instance there is a hash by which nothing collides with it. -/
theorem not_collides_telling (a site : ClusterInstance) : ¬a.Collides site.telling site := by
  rintro ⟨unlike, alike⟩
  obtain ⟨other, taken⟩ : ∃ octets, a.octets? = some octets := ⟨_, a.octets?_eq⟩
  obtain ⟨own, ownTaken⟩ : ∃ octets, site.octets? = some octets := ⟨_, site.octets?_eq⟩
  have apart : own ≠ other := fun same => unlike (by rw [taken, ownTaken, same])
  simp only [fingerprint?, taken, ownTaken, Option.map_some, telling, Option.some.injEq, apart, if_true,
    if_false] at alike
  exact absurd alike (by decide)

end ClusterInstance

end InstallStatus
