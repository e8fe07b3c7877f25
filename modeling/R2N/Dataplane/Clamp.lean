import R2N.Dataplane.Defense

/-!
# MSS clamping

`clamp_mss` walks over the options of a TCP SYN, lowers every maximum segment size above what the
tunnel carries, and recomputes the TCP checksum.

* `clampMss` — the function, with every access checked.
* `nextOption` — where the walk goes from an option; `mssOptions` — the offsets of the MSS options
  it comes by.
* **`clampOptions_eq`** — the loop lowers exactly those options, and stops the program exactly when
  one of them is cut off by the end of the packet.
* **`clampMss_ok_iff`** — on which packets the function panics.
* **`clampMss_of_not_syn`** — on which packets without a SYN it changes anything.
-/

namespace R2N

open Bytes (writeAt beBytes ofBe length_writeAt length_beBytes length_slice)
open Checked (Fault item)
open OnesComplement (word wordSum fold Verifies)

/-! ## The source -/

/-- The two words of an address. -/
def addressSum (ip : Bytes) : Except Fault ℕ := do
  let a ← Checked.get ip 0
  let b ← Checked.get ip 1
  let c ← Checked.get ip 2
  let d ← Checked.get ip 3
  return word a b + word c d

def recomputeTcpChecksum (ipv4Hdr tcpSegment : Bytes) : Except Fault Bytes := do
  let tcpSegment ← Checked.set tcpSegment 16 0
  let tcpSegment ← Checked.set tcpSegment 17 0
  let srcIp ← Checked.slice ipv4Hdr 12 16
  let dstIp ← Checked.slice ipv4Hdr 16 20
  let src ← addressSum srcIp
  let dst ← addressSum dstIp
  let sum := (src + dst + 6 + tcpSegment.length % 2 ^ 32) % 2 ^ 32
  let sum ← sumWords tcpSegment sum
  Checked.copyInto tcpSegment 16 18 (beBytes 2 (finishChecksum sum))

/-- The body of the branch for an MSS option at `pos`. -/
def clampOption (maxMss pos : ℕ) (clamped : Bool) (packet : Bytes) :
    Except Fault (Bool × Bytes) := do
  let hi ← Checked.get packet (pos + 2)
  let lo ← Checked.get packet (pos + 3)
  if word hi lo > maxMss then do
    let packet ← Checked.copyInto packet (pos + 2) (pos + 4) (beBytes 2 maxMss)
    return (true, packet)
  else
    return (clamped, packet)

/-- The `while` loop over the options; `i` counts from the start of the TCP header. -/
def clampOptions (tcpStart tcpLen dataOffset maxMss : ℕ) :
    ℕ → ℕ → Bool → Bytes → Except Fault (Bool × Bytes)
  | 0, _, _, _ => .error .outOfFuel
  | fuel + 1, i, clamped, packet =>
      if i < dataOffset ∧ i + 1 < tcpLen then do
        let kind ← Checked.get packet (tcpStart + i)
        if kind = 0 then
          -- end of the option list
          return (clamped, packet)
        else if kind = 1 then
          clampOptions tcpStart tcpLen dataOffset maxMss fuel (i + 1) clamped packet
        else do
          let optLen ← Checked.get packet (tcpStart + i + 1)
          if optLen.toNat < 2 ∨ i + optLen.toNat > dataOffset then
            return (clamped, packet)
          else if kind = 2 ∧ optLen = 4 then do
            let result ← clampOption maxMss (tcpStart + i) clamped packet
            clampOptions tcpStart tcpLen dataOffset maxMss fuel (i + optLen.toNat) result.1
              result.2
          else
            clampOptions tcpStart tcpLen dataOffset maxMss fuel (i + optLen.toNat) clamped packet
      else
        return (clamped, packet)

/-- What follows the loop. -/
def finishClamp (ihl : ℕ) (result : Bool × Bytes) : Except Fault (Bool × Bytes) := do
  if result.1 then
    let parts ← Checked.splitAt result.2 ihl
    let tcpSegment ← recomputeTcpChecksum parts.1 parts.2
    return (true, parts.1 ++ tcpSegment)
  else
    return result

/-- The branch for TCP; `max_mss` is `as u16` of a saturating difference. -/
def clampTcp (packet : Bytes) (ihl safePayloadMtu : ℕ) : Except Fault (Bool × Bytes) := do
  let tcpStart := ihl
  let tcpLen := packet.length - tcpStart
  if tcpLen < 20 then
    return (false, packet)
  else
    let offset ← Checked.get packet (tcpStart + 12)
    let dataOffset := (offset >>> 4).toNat * 4
    let result ← if dataOffset > 20 then do
        let flags ← Checked.get packet (tcpStart + 13)
        if flags &&& 0x02 ≠ 0 then
          clampOptions tcpStart tcpLen dataOffset ((safePayloadMtu - (ihl + 20)) % 2 ^ 16)
            dataOffset 20 false packet
        else
          return (false, packet)
      else
        return (false, packet)
    finishClamp ihl result

def clampMss (packet : Bytes) (safePayloadMtu : ℕ) : Except Fault (Bool × Bytes) := do
  if packet.length < 40 then
    return (false, packet)
  else
    let first ← Checked.get packet 0
    if first >>> 4 = 4 then
      let ihl := (first &&& 0x0F).toNat * 4
      if packet.length < ihl + 20 then
        return (false, packet)
      else
        let protocol ← Checked.get packet 9
        if protocol = 6 then
          clampTcp packet ihl safePayloadMtu
        else
          return (false, packet)
    else
      return (false, packet)

/-! ## The walk -/

section Walk

variable (tcpStart tcpLen dataOffset : ℕ)

/-- Where the walk goes from `i`, and whether it leaves an MSS option behind; `none` where it
ends. -/
def nextOption (packet : Bytes) (i : ℕ) : Option (Bool × ℕ) :=
  let kind := item packet (tcpStart + i)
  let optLen := item packet (tcpStart + i + 1)
  if i < dataOffset ∧ i + 1 < tcpLen then
    if kind = 0 then none
    else if kind = 1 then some (false, i + 1)
    else if optLen.toNat < 2 ∨ i + optLen.toNat > dataOffset then none
    else some (decide (kind = 2 ∧ optLen = 4), i + optLen.toNat)
  else none

/-- The offsets in the packet of the MSS options the walk comes by from `i` on. -/
def mssOptionsFrom (packet : Bytes) : ℕ → ℕ → List ℕ
  | 0, _ => []
  | fuel + 1, i =>
      match nextOption tcpStart tcpLen dataOffset packet i with
      | none => []
      | some (true, next) => (tcpStart + i) :: mssOptionsFrom packet fuel next
      | some (false, next) => mssOptionsFrom packet fuel next

variable {tcpStart tcpLen dataOffset}

/-- The walk goes forward and stays inside the header. -/
lemma nextOption_lt {packet : Bytes} {i next : ℕ} {isMss : Bool}
    (h : nextOption tcpStart tcpLen dataOffset packet i = some (isMss, next)) :
    i < next ∧ next ≤ dataOffset ∧ (isMss = true → next = i + 4) := by
  simp only [nextOption] at h
  split_ifs at h with hin hend hnop hlen
  · obtain ⟨rfl, rfl⟩ := Prod.mk.inj (Option.some.inj h)
    exact ⟨Nat.lt_succ_self i, hin.1, by simp⟩
  · obtain ⟨rfl, rfl⟩ := Prod.mk.inj (Option.some.inj h)
    refine ⟨by omega, by omega, fun hmss => ?_⟩
    rw [(of_decide_eq_true hmss).2]
    rfl

/-- The walk reads nothing but the kind and the length. -/
lemma nextOption_congr {p q : Bytes} {i : ℕ}
    (hkind : item p (tcpStart + i) = item q (tcpStart + i))
    (hlen : item p (tcpStart + i + 1) = item q (tcpStart + i + 1)) :
    nextOption tcpStart tcpLen dataOffset p i = nextOption tcpStart tcpLen dataOffset q i := by
  simp only [nextOption, hkind, hlen]

lemma mssOptionsFrom_of_none {packet : Bytes} {fuel i : ℕ}
    (h : nextOption tcpStart tcpLen dataOffset packet i = none) :
    mssOptionsFrom tcpStart tcpLen dataOffset packet (fuel + 1) i = [] := by
  simp [mssOptionsFrom, h]

lemma mssOptionsFrom_of_mss {packet : Bytes} {fuel i next : ℕ}
    (h : nextOption tcpStart tcpLen dataOffset packet i = some (true, next)) :
    mssOptionsFrom tcpStart tcpLen dataOffset packet (fuel + 1) i =
      (tcpStart + i) :: mssOptionsFrom tcpStart tcpLen dataOffset packet fuel next := by
  simp [mssOptionsFrom, h]

lemma mssOptionsFrom_of_other {packet : Bytes} {fuel i next : ℕ}
    (h : nextOption tcpStart tcpLen dataOffset packet i = some (false, next)) :
    mssOptionsFrom tcpStart tcpLen dataOffset packet (fuel + 1) i =
      mssOptionsFrom tcpStart tcpLen dataOffset packet fuel next := by
  simp [mssOptionsFrom, h]

/-- The three ways a round of the walk can go. -/
lemma nextOption_cases (tcpStart tcpLen dataOffset : ℕ) (packet : Bytes) (i : ℕ) :
    nextOption tcpStart tcpLen dataOffset packet i = none ∨
      (nextOption tcpStart tcpLen dataOffset packet i = some (true, i + 4) ∧
        i + 4 ≤ dataOffset) ∨
      ∃ next, nextOption tcpStart tcpLen dataOffset packet i = some (false, next) ∧
        i < next ∧ next ≤ dataOffset := by
  rcases hnext : nextOption tcpStart tcpLen dataOffset packet i with _ | ⟨_ | _, next⟩
  · exact .inl rfl
  · obtain ⟨hlt, hle, -⟩ := nextOption_lt hnext
    exact .inr (.inr ⟨next, rfl, hlt, hle⟩)
  · obtain ⟨-, hle, hmss⟩ := nextOption_lt hnext
    obtain rfl := hmss rfl
    exact .inr (.inl ⟨rfl, hle⟩)

/-- The options found lie between the place where the walk starts and the end of the header. -/
lemma mem_mssOptionsFrom {packet : Bytes} {fuel i k : ℕ}
    (hk : k ∈ mssOptionsFrom tcpStart tcpLen dataOffset packet fuel i) :
    tcpStart + i ≤ k ∧ k + 4 ≤ tcpStart + dataOffset := by
  induction fuel generalizing i with
  | zero => simp [mssOptionsFrom] at hk
  | succ fuel ih =>
      rcases nextOption_cases tcpStart tcpLen dataOffset packet i with
        hnone | ⟨hmss, hle⟩ | ⟨next, hother, hlt, hle⟩
      · simp [mssOptionsFrom_of_none hnone] at hk
      · rw [mssOptionsFrom_of_mss hmss, List.mem_cons] at hk
        rcases hk with rfl | hk
        · omega
        · have := ih hk
          omega
      · rw [mssOptionsFrom_of_other hother] at hk
        have := ih hk
        omega

/-- The values of two options do not overlap. -/
lemma pairwise_mssOptionsFrom (packet : Bytes) (fuel i : ℕ) :
    (mssOptionsFrom tcpStart tcpLen dataOffset packet fuel i).Pairwise
      (fun k k' => k + 4 ≤ k') := by
  induction fuel generalizing i with
  | zero => exact List.Pairwise.nil
  | succ fuel ih =>
      rcases nextOption_cases tcpStart tcpLen dataOffset packet i with
        hnone | ⟨hmss, -⟩ | ⟨next, hother, -, -⟩
      · simp [mssOptionsFrom_of_none hnone]
      · rw [mssOptionsFrom_of_mss hmss]
        refine List.Pairwise.cons (fun k hk => ?_) (ih _)
        have := mem_mssOptionsFrom hk
        omega
      · rw [mssOptionsFrom_of_other hother]
        exact ih next

/-- **Lowering values does not change the walk**: two packets that differ in the values of the
options alone have their options at the same places. -/
lemma mssOptionsFrom_congr {p q : Bytes} {fuel i : ℕ}
    (h : ∀ j, tcpStart + i ≤ j →
      (∀ k ∈ mssOptionsFrom tcpStart tcpLen dataOffset p fuel i, j ≠ k + 2 ∧ j ≠ k + 3) →
        item p j = item q j) :
    mssOptionsFrom tcpStart tcpLen dataOffset q fuel i =
      mssOptionsFrom tcpStart tcpLen dataOffset p fuel i := by
  induction fuel generalizing i with
  | zero => rfl
  | succ fuel ih =>
      have hnext : nextOption tcpStart tcpLen dataOffset p i =
          nextOption tcpStart tcpLen dataOffset q i := by
        refine nextOption_congr (h _ (by omega) fun k hk => ?_) (h _ (by omega) fun k hk => ?_)
        all_goals
          have := mem_mssOptionsFrom hk
          omega
      rcases nextOption_cases tcpStart tcpLen dataOffset p i with
        hnone | ⟨hmss, -⟩ | ⟨next, hother, hlt, -⟩
      · rw [mssOptionsFrom_of_none hnone, mssOptionsFrom_of_none (hnext ▸ hnone)]
      · rw [mssOptionsFrom_of_mss hmss] at h ⊢
        rw [mssOptionsFrom_of_mss (hnext ▸ hmss), ih]
        intro j hj hne
        refine h j (by omega) (List.forall_mem_cons.mpr ⟨by omega, hne⟩)
      · rw [mssOptionsFrom_of_other hother] at h ⊢
        rw [mssOptionsFrom_of_other (hnext ▸ hother), ih]
        exact fun j hj hne => h j (by omega) hne

end Walk

/-! ## The loop -/

/-- The value of an MSS option at `k`. -/
def mssValue (packet : Bytes) (k : ℕ) : ℕ := word (item packet (k + 2)) (item packet (k + 3))

/-- `p` with the value at `k` lowered if the one in `packet` is too large. -/
def lowerOption (packet : Bytes) (maxMss : ℕ) (p : Bytes) (k : ℕ) : Bytes :=
  if maxMss < mssValue packet k then writeAt (k + 2) (beBytes 2 maxMss) p else p

lemma length_lowerOption (packet : Bytes) (maxMss : ℕ) {p : Bytes} {k : ℕ} (hk : k + 4 ≤ p.length) :
    (lowerOption packet maxMss p k).length = p.length := by
  simp only [lowerOption]
  split_ifs
  · exact length_writeAt (by simpa using hk)
  · rfl

lemma item_lowerOption {packet p : Bytes} {maxMss k j : ℕ} (hk : k + 4 ≤ p.length)
    (hj : j ≠ k + 2 ∧ j ≠ k + 3) : item (lowerOption packet maxMss p k) j = item p j := by
  simp only [lowerOption]
  split_ifs
  · rw [Checked.item_writeAt (by simpa using hk), if_neg (by simp only [length_beBytes]; omega)]
  · rfl

lemma clampOption_eq {p : Bytes} {maxMss k : ℕ} {clamped : Bool} (hk : k + 4 ≤ p.length) :
    clampOption maxMss k clamped p =
      .ok (clamped || decide (maxMss < mssValue p k), lowerOption p maxMss p k) := by
  simp only [clampOption]
  rw [Checked.get_of_lt (by omega), Checked.ok_bind, Checked.get_of_lt (by omega),
    Checked.ok_bind, show word (item p (k + 2)) (item p (k + 3)) = mssValue p k from rfl]
  by_cases hlarge : maxMss < mssValue p k
  · rw [if_pos hlarge, Checked.copyInto_of_le (by omega) (by simp)]
    simp [lowerOption, hlarge]
  · rw [if_neg hlarge]
    simp [lowerOption, hlarge]

lemma clampOption_of_lt {p : Bytes} {maxMss k : ℕ} {clamped : Bool} (hk : p.length < k + 4) :
    clampOption maxMss k clamped p = .error .outOfRange := by
  simp only [clampOption]
  rcases Nat.lt_or_ge (k + 2) p.length with hhi | hhi
  · rw [Checked.get_of_lt hhi, Checked.ok_bind, Checked.get_of_le (by omega)]
    rfl
  · rw [Checked.get_of_le hhi]
    rfl

section Loop

variable {tcpStart tcpLen dataOffset maxMss : ℕ}

/-- A round of the loop is a round of the walk, with the MSS option it leaves behind clamped. -/
lemma clampOptions_succ {p : Bytes} {fuel i : ℕ} {clamped : Bool}
    (hlen : tcpStart + tcpLen = p.length) :
    clampOptions tcpStart tcpLen dataOffset maxMss (fuel + 1) i clamped p =
      match nextOption tcpStart tcpLen dataOffset p i with
      | none => .ok (clamped, p)
      | some (true, next) => do
          let result ← clampOption maxMss (tcpStart + i) clamped p
          clampOptions tcpStart tcpLen dataOffset maxMss fuel next result.1 result.2
      | some (false, next) =>
          clampOptions tcpStart tcpLen dataOffset maxMss fuel next clamped p := by
  simp only [clampOptions, nextOption]
  by_cases hin : i < dataOffset ∧ i + 1 < tcpLen
  · rw [if_pos hin, if_pos hin, Checked.get_of_lt (by omega), Checked.ok_bind,
      Checked.get_of_lt (show tcpStart + i + 1 < p.length by omega), Checked.ok_bind]
    by_cases hend : item p (tcpStart + i) = 0
    · rw [if_pos hend, if_pos hend]
      rfl
    rw [if_neg hend, if_neg hend]
    by_cases hnop : item p (tcpStart + i) = 1
    · rw [if_pos hnop, if_pos hnop]
    rw [if_neg hnop, if_neg hnop]
    by_cases hbad : (item p (tcpStart + i + 1)).toNat < 2 ∨
        i + (item p (tcpStart + i + 1)).toNat > dataOffset
    · rw [if_pos hbad, if_pos hbad]
      rfl
    rw [if_neg hbad, if_neg hbad]
    by_cases hmss : item p (tcpStart + i) = 2 ∧ item p (tcpStart + i + 1) = 4
    · rw [if_pos hmss, decide_eq_true hmss]
    · rw [if_neg hmss, decide_eq_false hmss]
  · rw [if_neg hin, if_neg hin]
    rfl

/-- **The loop** lowers the options of the walk over `packet`, of which `p` is what the earlier
rounds have left; an option cut off by the end of the packet stops the program. -/
theorem clampOptions_eq {packet p : Bytes} {fuel i : ℕ} {clamped : Bool}
    (htcp : tcpStart + tcpLen = packet.length) (hlen : p.length = packet.length)
    (hfuel : dataOffset - i < fuel)
    (hagree : ∀ j, tcpStart + i ≤ j → item p j = item packet j) :
    clampOptions tcpStart tcpLen dataOffset maxMss fuel i clamped p =
      if ∀ k ∈ mssOptionsFrom tcpStart tcpLen dataOffset packet fuel i, k + 4 ≤ packet.length then
        .ok (clamped || (mssOptionsFrom tcpStart tcpLen dataOffset packet fuel i).any
            (fun k => decide (maxMss < mssValue packet k)),
          (mssOptionsFrom tcpStart tcpLen dataOffset packet fuel i).foldl
            (lowerOption packet maxMss) p)
      else .error .outOfRange := by
  induction fuel generalizing i clamped p with
  | zero => exact absurd hfuel (Nat.not_lt_zero _)
  | succ fuel ih =>
      have hnext : nextOption tcpStart tcpLen dataOffset p i =
          nextOption tcpStart tcpLen dataOffset packet i :=
        nextOption_congr (hagree _ (by omega)) (hagree _ (by omega))
      rw [clampOptions_succ (by omega), hnext]
      rcases nextOption_cases tcpStart tcpLen dataOffset packet i with
        hnone | ⟨hmss, hle⟩ | ⟨next, hother, hlt, hle⟩
      · simp [hnone, mssOptionsFrom_of_none hnone]
      · have hvalue : mssValue p (tcpStart + i) = mssValue packet (tcpStart + i) := by
          simp only [mssValue, hagree _ (show tcpStart + i ≤ tcpStart + i + 2 by omega),
            hagree _ (show tcpStart + i ≤ tcpStart + i + 3 by omega)]
        simp only [hmss, mssOptionsFrom_of_mss hmss, List.forall_mem_cons, List.any_cons,
          List.foldl_cons]
        rcases Nat.lt_or_ge packet.length (tcpStart + i + 4) with hcut | hinside
        · rw [clampOption_of_lt (by omega), if_neg (by omega)]
          rfl
        · have hlower : lowerOption p maxMss p (tcpStart + i) =
              lowerOption packet maxMss p (tcpStart + i) := by
            simp only [lowerOption, hvalue]
          rw [clampOption_eq (by omega), Checked.ok_bind, hlower, hvalue, ih]
          · simp [hinside, Bool.or_assoc]
          · rw [length_lowerOption packet maxMss (by omega), hlen]
          · omega
          · intro j hj
            rw [item_lowerOption (by omega) (by omega), hagree j (by omega)]
      · simp only [hother, mssOptionsFrom_of_other hother]
        exact ih hlen (by omega) fun j hj => hagree j (by omega)

end Loop

/-! ## The checksum -/

lemma addressSum_eq {ip : Bytes} (h : ip.length = 4) : addressSum ip = .ok (wordSum ip) := by
  obtain ⟨a, b, c, d, rfl⟩ := exists_four h
  simp [addressSum, Checked.get, item]

/-- A segment with its checksum field cleared. -/
def clearChecksum (tcpSegment : Bytes) : Bytes := writeAt 16 [0, 0] tcpSegment

lemma length_clearChecksum {seg : Bytes} (h : 18 ≤ seg.length) :
    (clearChecksum seg).length = seg.length :=
  length_writeAt (by simpa using h)

lemma clearChecksum_eq {seg : Bytes} (h : 18 ≤ seg.length) :
    writeAt 17 [0] (writeAt 16 [0] seg) = clearChecksum seg := by
  have hfirst : (writeAt 16 [0] seg).length = seg.length :=
    length_writeAt (by simp only [List.length_singleton]; omega)
  refine Checked.eq_of_item ?_ fun i _ => ?_
  · rw [length_clearChecksum h, length_writeAt (by simp only [List.length_singleton]; omega),
      hfirst]
  · rw [clearChecksum, Checked.item_writeAt (by simp only [List.length_singleton]; omega),
      Checked.item_writeAt (by simp only [List.length_singleton]; omega),
      Checked.item_writeAt (by simp only [List.length_cons, List.length_nil]; omega)]
    simp only [List.length_cons, List.length_nil]
    rcases Nat.lt_trichotomy i 16 with hi | rfl | hi
    · rw [if_neg (by omega), if_neg (by omega), if_neg (by omega)]
    · rfl
    · rcases Nat.lt_trichotomy i 17 with hi' | rfl | hi'
      · omega
      · rfl
      · rw [if_neg (by omega), if_neg (by omega), if_neg (by omega)]

/-- What the pseudo-header adds to the sum. -/
def pseudoSum (ipv4Hdr : Bytes) (tcpLen : ℕ) : ℕ :=
  wordSum (Bytes.slice 12 16 ipv4Hdr) + wordSum (Bytes.slice 16 20 ipv4Hdr) + 6 + tcpLen

/-- The checksum of a segment, summed in 32 bits. -/
def tcpChecksum (ipv4Hdr tcpSegment : Bytes) : ℕ :=
  65535 - fold ((pseudoSum ipv4Hdr tcpSegment.length + wordSum (clearChecksum tcpSegment)) % 2 ^ 32)

lemma recomputeTcpChecksum_eq {hdr seg : Bytes} (hhdr : 20 ≤ hdr.length) (hseg : 18 ≤ seg.length) :
    recomputeTcpChecksum hdr seg =
      .ok (writeAt 16 (beBytes 2 (tcpChecksum hdr seg)) (clearChecksum seg)) := by
  have hfirst : (writeAt 16 [0] seg).length = seg.length :=
    length_writeAt (by simp only [List.length_singleton]; omega)
  have hclear := length_clearChecksum hseg
  -- the length is taken `as u32` before it is added
  have hwrap : ∀ a b c : ℕ, (a + b % 2 ^ 32 + c) % 2 ^ 32 = (a + b + c) % 2 ^ 32 := by omega
  simp only [recomputeTcpChecksum]
  rw [Checked.set_of_lt (by omega), Checked.ok_bind, Checked.set_of_lt (by omega),
    Checked.ok_bind, clearChecksum_eq hseg, Checked.slice_of_le (by decide) (by omega),
    Checked.ok_bind, Checked.slice_of_le (by decide) hhdr, Checked.ok_bind,
    addressSum_eq (length_slice (by omega)), Checked.ok_bind, addressSum_eq (length_slice hhdr),
    Checked.ok_bind, sumWords_eq _ (Nat.mod_lt _ (by decide)), Checked.ok_bind,
    Checked.copyInto_of_le (by omega) (by simp), finishChecksum_eq, hclear, Nat.mod_add_mod,
    hwrap, tcpChecksum, pseudoSum]

/-- A header of fewer than 20 bytes has no addresses to sum. -/
lemma recomputeTcpChecksum_of_short {hdr seg : Bytes} (hhdr : hdr.length < 20)
    (hseg : 18 ≤ seg.length) : recomputeTcpChecksum hdr seg = .error .outOfRange := by
  have hfirst : (writeAt 16 [0] seg).length = seg.length :=
    length_writeAt (by simp only [List.length_singleton]; omega)
  simp only [recomputeTcpChecksum]
  rw [Checked.set_of_lt (by omega), Checked.ok_bind, Checked.set_of_lt (by omega),
    Checked.ok_bind]
  rcases Nat.lt_or_ge hdr.length 16 with hsrc | hsrc
  · rw [Checked.slice_of_lt hsrc]
    rfl
  · rw [Checked.slice_of_le (by decide) hsrc, Checked.ok_bind, Checked.slice_of_lt hhdr]
    rfl

/-! ## The function -/

def protocolByte (packet : Bytes) : UInt8 := item packet 9

/-- The length of the TCP header, from its thirteenth byte. -/
def tcpDataOffset (packet : Bytes) : ℕ := (item packet (ihl packet + 12) >>> 4).toNat * 4

/-- The SYN flag at its place behind the IPv4 header. -/
def SynFlag (packet : Bytes) : Prop := item packet (ihl packet + 13) &&& 0x02 ≠ 0

instance (packet : Bytes) : Decidable (SynFlag packet) :=
  inferInstanceAs (Decidable (item packet (ihl packet + 13) &&& 0x02 ≠ 0))

/-- The packets whose options are walked over. -/
def Scanned (packet : Bytes) : Prop :=
  40 ≤ packet.length ∧ ipVersion packet = 4 ∧ ihl packet + 20 ≤ packet.length ∧
    protocolByte packet = 6 ∧ 20 < tcpDataOffset packet ∧ SynFlag packet

instance (packet : Bytes) : Decidable (Scanned packet) :=
  inferInstanceAs (Decidable (_ ∧ _ ∧ _ ∧ _ ∧ _ ∧ _))

/-- The largest segment size let through. -/
def maxMss (packet : Bytes) (safePayloadMtu : ℕ) : ℕ :=
  (safePayloadMtu - (ihl packet + 20)) % 2 ^ 16

/-- The offsets of the MSS options the walk comes by. -/
def mssOptions (packet : Bytes) : List ℕ :=
  mssOptionsFrom (ihl packet) (packet.length - ihl packet) (tcpDataOffset packet) packet
    (tcpDataOffset packet) 20

/-- The packet with its MSS options lowered. -/
def lowered (packet : Bytes) (safePayloadMtu : ℕ) : Bytes :=
  (mssOptions packet).foldl (lowerOption packet (maxMss packet safePayloadMtu)) packet

lemma clampTcp_eq {packet : Bytes} (h : ihl packet + 20 ≤ packet.length) (safePayloadMtu : ℕ) :
    clampTcp packet (ihl packet) safePayloadMtu =
      if 20 < tcpDataOffset packet ∧ SynFlag packet then do
        let result ← clampOptions (ihl packet) (packet.length - ihl packet) (tcpDataOffset packet)
          (maxMss packet safePayloadMtu) (tcpDataOffset packet) 20 false packet
        finishClamp (ihl packet) result
      else .ok (false, packet) := by
  simp only [clampTcp]
  rw [if_neg (by omega), Checked.get_of_lt (by omega), Checked.ok_bind,
    show (item packet (ihl packet + 12) >>> 4).toNat * 4 = tcpDataOffset packet from rfl]
  by_cases hoffset : 20 < tcpDataOffset packet
  · rw [if_pos hoffset, Checked.get_of_lt (by omega), Checked.ok_bind]
    by_cases hsyn : item packet (ihl packet + 13) &&& 0x02 ≠ 0
    · rw [if_pos hsyn, if_pos ⟨hoffset, hsyn⟩]
      rfl
    · rw [if_neg hsyn, if_neg fun hboth => hsyn hboth.2]
      rfl
  · rw [if_neg hoffset, if_neg fun hboth => hoffset hboth.1]
    rfl

/-- The function is the walk and what follows it for the packets that are walked over, and leaves
the others alone. -/
lemma clampMss_eq (packet : Bytes) (safePayloadMtu : ℕ) :
    clampMss packet safePayloadMtu =
      if Scanned packet then do
        let result ← clampOptions (ihl packet) (packet.length - ihl packet) (tcpDataOffset packet)
          (maxMss packet safePayloadMtu) (tcpDataOffset packet) 20 false packet
        finishClamp (ihl packet) result
      else .ok (false, packet) := by
  simp only [clampMss]
  by_cases hlen : packet.length < 40
  · rw [if_pos hlen, if_neg fun h : Scanned packet => absurd h.1 (by omega)]
    rfl
  rw [if_neg hlen, Checked.get_of_lt (by omega), Checked.ok_bind]
  by_cases hversion : item packet 0 >>> 4 = 4
  · rw [if_pos hversion, show (item packet 0 &&& 0x0F).toNat * 4 = ihl packet from rfl]
    by_cases hihl : packet.length < ihl packet + 20
    · rw [if_pos hihl, if_neg fun h : Scanned packet => absurd h.2.2.1 (by omega)]
      rfl
    rw [if_neg hihl, Checked.get_of_lt (by omega), Checked.ok_bind]
    by_cases hprotocol : item packet 9 = 6
    · rw [if_pos hprotocol, clampTcp_eq (by omega)]
      have hscanned : Scanned packet ↔ 20 < tcpDataOffset packet ∧ SynFlag packet :=
        ⟨fun h => h.2.2.2.2, fun h => ⟨by omega, hversion, by omega, hprotocol, h⟩⟩
      simp only [hscanned]
    · rw [if_neg hprotocol, if_neg fun h : Scanned packet => hprotocol h.2.2.2.1]
      rfl
  · rw [if_neg hversion, if_neg fun h : Scanned packet => hversion h.2.1]
    rfl

lemma clampOptions_mssOptions {packet : Bytes} (h : Scanned packet) (maxMss : ℕ) :
    clampOptions (ihl packet) (packet.length - ihl packet) (tcpDataOffset packet) maxMss
        (tcpDataOffset packet) 20 false packet =
      if ∀ k ∈ mssOptions packet, k + 4 ≤ packet.length then
        .ok ((mssOptions packet).any (fun k => decide (maxMss < mssValue packet k)),
          (mssOptions packet).foldl (lowerOption packet maxMss) packet)
      else .error .outOfRange := by
  obtain ⟨-, -, hlen, -, hoffset, -⟩ := h
  rw [clampOptions_eq (by omega) rfl (by omega) fun _ _ => rfl, Bool.false_or]
  rfl

/-- An option cut off by the end of the packet is read out of range. -/
lemma clampMss_of_cut {packet : Bytes} {safePayloadMtu : ℕ} (h : Scanned packet)
    (hcut : ∃ k ∈ mssOptions packet, packet.length < k + 4) :
    clampMss packet safePayloadMtu = .error .outOfRange := by
  have hnot : ¬∀ k ∈ mssOptions packet, k + 4 ≤ packet.length := by
    simpa using hcut
  rw [clampMss_eq, if_pos h, clampOptions_mssOptions h, if_neg hnot, Checked.error_bind]

lemma foldl_lowerOption_of_le {packet : Bytes} {maxMss : ℕ} {l : List ℕ}
    (h : ∀ k ∈ l, mssValue packet k ≤ maxMss) (p : Bytes) :
    l.foldl (lowerOption packet maxMss) p = p := by
  induction l generalizing p with
  | nil => rfl
  | cons k l ih =>
      rw [List.forall_mem_cons] at h
      rw [List.foldl_cons, lowerOption, if_neg (by omega), ih h.2]

/-- Where no option is too large, nothing is changed. -/
lemma clampMss_of_small {packet : Bytes} {safePayloadMtu : ℕ}
    (h : Scanned packet → ∀ k ∈ mssOptions packet, k + 4 ≤ packet.length ∧
      mssValue packet k ≤ maxMss packet safePayloadMtu) :
    clampMss packet safePayloadMtu = .ok (false, packet) := by
  by_cases hscanned : Scanned packet
  · have hany : (mssOptions packet).any
        (fun k => decide (maxMss packet safePayloadMtu < mssValue packet k)) = false := by
      simpa using fun k hk => (h hscanned k hk).2
    rw [clampMss_eq, if_pos hscanned, clampOptions_mssOptions hscanned,
      if_pos fun k hk => (h hscanned k hk).1, Checked.ok_bind, hany,
      foldl_lowerOption_of_le fun k hk => (h hscanned k hk).2]
    rfl
  · rw [clampMss_eq, if_neg hscanned]

/-- Where an option is too large, the options are lowered and the checksum is recomputed. -/
lemma clampMss_of_large {packet : Bytes} {safePayloadMtu : ℕ} (h : Scanned packet)
    (hinside : ∀ k ∈ mssOptions packet, k + 4 ≤ packet.length)
    (hlarge : ∃ k ∈ mssOptions packet, maxMss packet safePayloadMtu < mssValue packet k) :
    clampMss packet safePayloadMtu =
      finishClamp (ihl packet) (true, lowered packet safePayloadMtu) := by
  have hany : (mssOptions packet).any
      (fun k => decide (maxMss packet safePayloadMtu < mssValue packet k)) = true := by
    simpa using hlarge
  rw [clampMss_eq, if_pos h, clampOptions_mssOptions h, if_pos hinside, Checked.ok_bind, hany]
  rfl

lemma length_foldl_lowerOption {packet p : Bytes} {maxMss : ℕ} {l : List ℕ}
    (h : ∀ k ∈ l, k + 4 ≤ p.length) :
    (l.foldl (lowerOption packet maxMss) p).length = p.length := by
  induction l generalizing p with
  | nil => rfl
  | cons k l ih =>
      rw [List.forall_mem_cons] at h
      have hlen := length_lowerOption packet maxMss h.1
      rw [List.foldl_cons, ih (by rw [hlen]; exact h.2), hlen]

/-- A packet with its TCP checksum computed anew. -/
def rechecksummed (ihl : ℕ) (packet : Bytes) : Bytes :=
  packet.take ihl ++ writeAt 16 (beBytes 2 (tcpChecksum (packet.take ihl) (packet.drop ihl)))
    (clearChecksum (packet.drop ihl))

lemma finishClamp_eq {ihl : ℕ} {packet : Bytes} (hihl : 20 ≤ ihl)
    (hlen : ihl + 20 ≤ packet.length) :
    finishClamp ihl (true, packet) = .ok (true, rechecksummed ihl packet) := by
  simp only [finishClamp, if_true]
  rw [Checked.splitAt_of_le (by omega), Checked.ok_bind, recomputeTcpChecksum_eq]
  · rfl
  · rw [List.length_take]
    omega
  · rw [List.length_drop]
    omega

lemma finishClamp_of_short {ihl : ℕ} {packet : Bytes} (hihl : ihl < 20)
    (hlen : ihl + 20 ≤ packet.length) :
    finishClamp ihl (true, packet) = .error .outOfRange := by
  simp only [finishClamp, if_true]
  rw [Checked.splitAt_of_le (by omega), Checked.ok_bind, recomputeTcpChecksum_of_short]
  · rfl
  · rw [List.length_take]
    omega
  · rw [List.length_drop]
    omega

lemma length_rechecksummed {n : ℕ} {packet : Bytes} (hlen : n + 20 ≤ packet.length) :
    (rechecksummed n packet).length = packet.length := by
  have hseg : 18 ≤ (packet.drop n).length := by
    rw [List.length_drop]
    omega
  have hclear := length_clearChecksum hseg
  rw [rechecksummed, List.length_append, length_writeAt (by simp only [length_beBytes]; omega),
    hclear, List.length_take, List.length_drop]
  omega

/-- The option at `k` lies inside the packet and is small enough. -/
def OptionFits (packet : Bytes) (safePayloadMtu k : ℕ) : Prop :=
  k + 4 ≤ packet.length ∧ mssValue packet k ≤ maxMss packet safePayloadMtu

/-- **The ways a call can end**: nothing to do, options lowered, a header too short for the
checksum, an option cut off. -/
lemma clampMss_cases (packet : Bytes) (safePayloadMtu : ℕ) :
    ((Scanned packet → ∀ k ∈ mssOptions packet, OptionFits packet safePayloadMtu k) ∧
      clampMss packet safePayloadMtu = .ok (false, packet)) ∨
    (Scanned packet ∧ (∀ k ∈ mssOptions packet, k + 4 ≤ packet.length) ∧
      (∃ k ∈ mssOptions packet, maxMss packet safePayloadMtu < mssValue packet k) ∧
      ((20 ≤ ihl packet ∧ clampMss packet safePayloadMtu =
          .ok (true, rechecksummed (ihl packet) (lowered packet safePayloadMtu))) ∨
        (ihl packet < 20 ∧ clampMss packet safePayloadMtu = .error .outOfRange))) ∨
    (Scanned packet ∧ (∃ k ∈ mssOptions packet, packet.length < k + 4) ∧
      clampMss packet safePayloadMtu = .error .outOfRange) := by
  by_cases hsmall : Scanned packet → ∀ k ∈ mssOptions packet, OptionFits packet safePayloadMtu k
  · exact .inl ⟨hsmall, clampMss_of_small hsmall⟩
  simp only [OptionFits] at hsmall
  push Not at hsmall
  obtain ⟨hscanned, k, hk, hlarge⟩ := hsmall
  by_cases hinside : ∀ k ∈ mssOptions packet, k + 4 ≤ packet.length
  · have hlen : ihl packet + 20 ≤ (lowered packet safePayloadMtu).length := by
      rw [lowered, length_foldl_lowerOption hinside]
      exact hscanned.2.2.1
    have hsome : ∃ k ∈ mssOptions packet, maxMss packet safePayloadMtu < mssValue packet k :=
      ⟨k, hk, hlarge (hinside k hk)⟩
    refine .inr (.inl ⟨hscanned, hinside, hsome, ?_⟩)
    rw [clampMss_of_large hscanned hinside hsome]
    rcases Nat.lt_or_ge (ihl packet) 20 with hihl | hihl
    · exact .inr ⟨hihl, finishClamp_of_short hihl hlen⟩
    · exact .inl ⟨hihl, finishClamp_eq hihl hlen⟩
  · push Not at hinside
    exact .inr (.inr ⟨hscanned, hinside, clampMss_of_cut hscanned hinside⟩)

/-- **When MSS clamping panics.**  The function always ends.  It makes no access out of range
exactly if every MSS option it comes by in a SYN ends inside the packet and, where the IPv4 header
length is below the 20 bytes of a header, none of them is too large. -/
theorem clampMss_ok_iff (packet : Bytes) (safePayloadMtu : ℕ) :
    clampMss packet safePayloadMtu ≠ .error .outOfFuel ∧
      ((∃ result, clampMss packet safePayloadMtu = .ok result) ↔
        (Scanned packet → ∀ k ∈ mssOptions packet, k + 4 ≤ packet.length ∧
          (20 ≤ ihl packet ∨ mssValue packet k ≤ maxMss packet safePayloadMtu))) := by
  rcases clampMss_cases packet safePayloadMtu with
    ⟨hsmall, hok⟩ | ⟨hscanned, hinside, ⟨k, hk, hlarge⟩, ⟨hihl, hok⟩ | ⟨hihl, herr⟩⟩ |
      ⟨hscanned, ⟨k, hk, hcut⟩, herr⟩
  · rw [hok]
    exact ⟨by simp, by simpa using fun h k hk => ⟨(hsmall h k hk).1, .inr (hsmall h k hk).2⟩⟩
  · rw [hok]
    exact ⟨by simp, by simpa using fun _ k hk => ⟨hinside k hk, .inl hihl⟩⟩
  · rw [herr]
    refine ⟨by simp, by simp, fun h => ?_⟩
    have := (h hscanned k hk).2
    omega
  · rw [herr]
    refine ⟨by simp, by simp, fun h => ?_⟩
    have := (h hscanned k hk).1
    omega

/-- Whatever is written, the packet keeps its length. -/
lemma length_clampMss {packet packet' : Bytes} {safePayloadMtu : ℕ} {clamped : Bool}
    (h : clampMss packet safePayloadMtu = .ok (clamped, packet')) :
    packet'.length = packet.length := by
  rcases clampMss_cases packet safePayloadMtu with
    ⟨-, hok⟩ | ⟨hscanned, hinside, -, ⟨-, hok⟩ | ⟨-, herr⟩⟩ | ⟨-, -, herr⟩
  · cases hok.symm.trans h
    rfl
  · cases hok.symm.trans h
    have hlow : (lowered packet safePayloadMtu).length = packet.length :=
      length_foldl_lowerOption hinside
    rw [length_rechecksummed (by rw [hlow]; exact hscanned.2.2.1), hlow]
  · cases herr.symm.trans h
  · cases herr.symm.trans h

/-- A SYN whose IPv4 header is said to have 16 bytes. -/
def shortHeaderSyn : Bytes :=
  [0x44, 0, 0, 40, 0, 0, 0, 0, 64, 6, 0, 0, 10, 0, 0, 1] ++ List.replicate 12 0 ++
    [0x60, 0x02] ++ List.replicate 6 0 ++ [2, 4, 0xFF, 0xFF]

/-- A SYN that ends within its MSS option. -/
def cutSyn : Bytes :=
  [0x45, 0, 0, 43, 0, 0, 0, 0, 64, 6, 0, 0, 10, 0, 0, 1, 10, 0, 0, 2] ++ List.replicate 12 0 ++
    [0x60, 0x02] ++ List.replicate 6 0 ++ [2, 4, 5]

/-- Both conditions can fail: the addresses of a header of 16 bytes are read behind its end, and
the value of an option is read behind the end of the packet. -/
theorem clampMss_panics :
    clampMss shortHeaderSyn 1280 = .error .outOfRange ∧
      clampMss cutSyn 1280 = .error .outOfRange := ⟨rfl, rfl⟩

/-! ## What is left alone -/

/-- The fragment offset, in units of eight bytes. -/
def fragmentOffset (packet : Bytes) : ℕ := word (item packet 6) (item packet 7) % 2 ^ 13

lemma clampMss_eq_false_iff (packet : Bytes) (safePayloadMtu : ℕ) :
    clampMss packet safePayloadMtu = .ok (false, packet) ↔
      (Scanned packet → ∀ k ∈ mssOptions packet, OptionFits packet safePayloadMtu k) := by
  refine ⟨fun h => ?_, clampMss_of_small⟩
  rcases clampMss_cases packet safePayloadMtu with
    ⟨hsmall, -⟩ | ⟨-, -, -, ⟨-, hok⟩ | ⟨-, herr⟩⟩ | ⟨-, -, herr⟩
  · exact hsmall
  · cases hok.symm.trans h
  · cases herr.symm.trans h
  · cases herr.symm.trans h

/-- **Packets without the start of a SYN.**  Such a packet is left alone exactly if it is not a
later fragment, or if its bytes, read as a TCP header, do not show a SYN with an MSS option that
is too large or cut off. -/
theorem clampMss_of_not_syn (packet : Bytes) (safePayloadMtu : ℕ)
    (h : protocolByte packet ≠ 6 ∨ ¬SynFlag packet ∨ fragmentOffset packet ≠ 0) :
    clampMss packet safePayloadMtu = .ok (false, packet) ↔
      fragmentOffset packet = 0 ∨
        (Scanned packet → ∀ k ∈ mssOptions packet, k + 4 ≤ packet.length ∧
          mssValue packet k ≤ maxMss packet safePayloadMtu) := by
  rw [clampMss_eq_false_iff]
  refine ⟨.inr, fun hcond hscanned => ?_⟩
  rcases hcond with hfirst | hcond
  · rcases h with hprotocol | hsyn | hfragment
    · exact absurd hscanned.2.2.2.1 hprotocol
    · exact absurd hscanned.2.2.2.2.2 hsyn
    · exact absurd hfirst hfragment
  · exact hcond hscanned

/-- The application data of a later fragment, which reads like a SYN with an MSS option. -/
def laterFragment : Bytes :=
  [0x45, 0, 0, 44, 0, 0, 0x00, 0xB9, 64, 6, 0, 0, 10, 0, 0, 1, 10, 0, 0, 2] ++
    List.replicate 12 0 ++ [0x60, 0x02] ++ List.replicate 6 0 ++ [2, 4, 0xFF, 0xFF]

theorem clampMss_of_not_syn_testDatagram :
    clampMss testDatagram 1280 = .ok (false, testDatagram) :=
  (clampMss_of_not_syn testDatagram 1280 (by decide)).mpr (by decide)

/-- The data of a later fragment is overwritten. -/
theorem clampMss_laterFragment :
    ipVersion laterFragment = 4 ∧ fragmentOffset laterFragment ≠ 0 ∧
      ∃ changed, clampMss laterFragment 1280 = .ok (true, changed) ∧ changed ≠ laterFragment :=
  ⟨by decide, by decide, _, rfl, by decide⟩

end R2N
