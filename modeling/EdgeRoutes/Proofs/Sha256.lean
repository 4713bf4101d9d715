import EdgeRoutes.Number.Numeral
import EdgeRoutes.Sha256

namespace EdgeRoutes.Sha256

/-- The bits of a word, most significant first. -/
def wordBits (w : UInt32) : List Bool := (List.range 32).map fun k => w.toNat.testBit (31 - k)

def bits (message : List UInt8) : List Bool := (digest message).toWords.flatMap wordBits

def lowerDigits : List Char :=
  ['0', '1', '2', '3', '4', '5', '6', '7', '8', '9', 'a', 'b', 'c', 'd', 'e', 'f']

def nibble (n : Nat) : List Bool := [n.testBit 3, n.testBit 2, n.testBit 1, n.testBit 0]

def digitBits (c : Char) : List Bool := nibble ((Numeral.hexValue? c).getD 0)

theorem length_digitBits (c : Char) : (digitBits c).length = 4 := rfl

theorem lowerDigits_eq : lowerDigits = (List.range 16).map Nat.digitChar := by decide

theorem mem_lowerDigits_iff (c : Char) : c ∈ lowerDigits ↔ ∃ n < 16, c = Nat.digitChar n := by
  rw [lowerDigits_eq, List.mem_map]
  simp only [List.mem_range, eq_comm]

theorem digitBits_digitChar : ∀ n < 16, digitBits (Nat.digitChar n) = nibble n := by decide

theorem nibble_injective : ∀ n < 16, ∀ m < 16, nibble n = nibble m → n = m := by decide

theorem digitBits_injective {c d : Char} (hc : c ∈ lowerDigits) (hd : d ∈ lowerDigits)
    (h : digitBits c = digitBits d) : c = d := by
  obtain ⟨n, hn, rfl⟩ := (mem_lowerDigits_iff c).1 hc
  obtain ⟨m, hm, rfl⟩ := (mem_lowerDigits_iff d).1 hd
  rw [digitBits_digitChar n hn, digitBits_digitChar m hm] at h
  rw [nibble_injective n hn m hm h]

theorem flatMap_digitBits_injective {ds es : List Char} (hd : ∀ c ∈ ds, c ∈ lowerDigits)
    (he : ∀ c ∈ es, c ∈ lowerDigits) (h : ds.flatMap digitBits = es.flatMap digitBits) :
    ds = es := by
  induction ds generalizing es with
  | nil =>
    cases es with
    | nil => rfl
    | cons e es => simp [digitBits, nibble] at h
  | cons d ds ih =>
    cases es with
    | nil => simp [digitBits, nibble] at h
    | cons e es =>
      rw [List.flatMap_cons, List.flatMap_cons] at h
      obtain ⟨hde, hrest⟩ := List.append_inj h rfl
      rw [digitBits_injective (hd d (by simp)) (he e (by simp)) hde,
        ih (fun c hc => hd c (by simp [hc])) (fun c hc => he c (by simp [hc])) hrest]

theorem take_flatMap_digitBits (n : Nat) (ds : List Char) :
    (ds.take n).flatMap digitBits = (ds.flatMap digitBits).take (4 * n) := by
  induction ds generalizing n with
  | nil => simp
  | cons d ds ih =>
    cases n with
    | zero => rfl
    | succ n =>
      rw [List.take_succ_cons, List.flatMap_cons, List.flatMap_cons, ih, Nat.mul_succ, Nat.add_comm,
        ← length_digitBits d, List.take_length_add_append]

theorem testBit_shiftRight_mod (x shift : Nat) {j : Nat} (hj : j < 4) :
    (x >>> shift % 16).testBit j = x.testBit (shift + j) := by
  have h := Nat.testBit_mod_two_pow (x >>> shift) 4 j
  rw [Nat.testBit_shiftRight] at h
  simpa [hj] using h

theorem nibble_shiftRight_mod (x shift : Nat) :
    nibble (x >>> shift % 16) =
      [x.testBit (shift + 3), x.testBit (shift + 2), x.testBit (shift + 1), x.testBit shift] := by
  simp only [nibble, testBit_shiftRight_mod, Nat.reduceLT, Nat.add_zero]

theorem flatMap_hexWord (w : UInt32) : (hexWord w).flatMap digitBits = wordBits w := by
  have h (shift : Nat) : digitBits (Nat.digitChar (w.toNat >>> shift % 16)) =
      nibble (w.toNat >>> shift % 16) :=
    digitBits_digitChar _ (Nat.mod_lt _ (by decide))
  simp only [hexWord, List.flatMap_map, List.flatMap_cons, List.flatMap_nil, h,
    nibble_shiftRight_mod]
  rfl

theorem flatMap_hex (message : List UInt8) : (hex message).flatMap digitBits = bits message := by
  simp only [hex, bits, List.flatMap_assoc, flatMap_hexWord]

theorem mem_hex {message : List UInt8} {c : Char} (h : c ∈ hex message) : c ∈ lowerDigits := by
  simp only [hex, hexWord, List.mem_flatMap, List.mem_map] at h
  obtain ⟨w, -, shift, -, rfl⟩ := h
  exact (mem_lowerDigits_iff _).2 ⟨_, Nat.mod_lt _ (by decide), rfl⟩

theorem length_hex (message : List UInt8) : (hex message).length = 64 := by
  simp [hex, hexWord, State.toWords]

/-- The first digits of a digest stand for the first bits of it. -/
theorem take_hex (n : Nat) (message : List UInt8) :
    ((hex message).take n).flatMap digitBits = (bits message).take (4 * n) := by
  rw [take_flatMap_digitBits, flatMap_hex]

theorem take_hex_eq_iff (n : Nat) (m m' : List UInt8) :
    (hex m).take n = (hex m').take n ↔ (bits m).take (4 * n) = (bits m').take (4 * n) := by
  rw [← take_hex, ← take_hex]
  exact ⟨congrArg _, flatMap_digitBits_injective (fun _ hc => mem_hex (List.mem_of_mem_take hc))
    fun _ hc => mem_hex (List.mem_of_mem_take hc)⟩

end EdgeRoutes.Sha256
