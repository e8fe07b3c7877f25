import R2N.Room
import R2N.Lib.Run

/-!
# What the allocators guarantee

The specifications of `r2n-room`'s two allocators: the subnets of the rooms, and the host addresses
inside a room.

* `Ipv4Net.Apart` — two networks share no address; `apart_iff` says that `ipv4NetsOverlap` decides
  it.
* **`RoomAddressPool.allocateWithAvoidance_cases`** — the allocation of a room that has none yet:
  the search finds a subnet that is free, or there is none.
* `RoomAddressPool.Valid` — every allocation is a subnet of the pool and belongs to one room;
  **`Valid.apart`** — then the subnets of two rooms share no address.
* **`pool_allocations_sound`** — over every history of calls: the subnets that are out are aligned,
  inside the pool and apart, and the pool is exhausted only if no subnet of it is left.
* **`Room.allocateIp_ok_iff`** — when a node gets an address in a room.
-/

namespace R2N

/-! ## Networks -/

/-- `Display` and `FromStr` are inverse to each other. -/
def Ipnet.RoundTrips (I : Ipnet) : Prop := ∀ n, I.parse (I.display n) = some n

/-- The text form with four decimal octets and a decimal prefix length. -/
def Ipnet.dotted : Ipnet where
  parse := fun s =>
    match s.toList.splitOn '/' with
    | [addr, len] =>
        match (addr.splitOn '.').mapM decimal, decimal len with
        | some [a, b, c, d], some len =>
            if a < 256 ∧ b < 256 ∧ c < 256 ∧ d < 256 then
              Ipv4Net.new (((a * 256 + b) * 256 + c) * 256 + d) len
            else none
        | _, _ => none
    | _ => none
  display := fun n => String.ofList (['/'].intercalate
    [['.'].intercalate ([n.addr / 2 ^ 24, n.addr / 2 ^ 16 % 256, n.addr / 2 ^ 8 % 256,
      n.addr % 256].map (Nat.toDigits 10)), Nat.toDigits 10 n.prefixLen])
where
  /-- `str::parse` for a number. -/
  decimal (text : List Char) : Option ℕ :=
    if text ≠ [] ∧ text.all Char.isDigit then
      some (text.foldl (fun n c => n * 10 + (c.toNat - '0'.toNat)) 0)
    else none

lemma Ipnet.decimal_toDigits (n : ℕ) : dotted.decimal (Nat.toDigits 10 n) = some n := by
  have hdigits : (Nat.toDigits 10 n).all Char.isDigit = true :=
    List.all_eq_true.mpr fun c hc => Nat.isDigit_of_mem_toDigits (by decide) (by decide) hc
  have hvalue := Nat.ofDigitChars_ten_toDigits (n := n)
  rw [Nat.ofDigitChars_eq_foldl] at hvalue
  rw [dotted.decimal, if_pos ⟨Nat.toDigits_ne_nil, hdigits⟩, Option.some.injEq]
  simpa only [Nat.mul_comm 10] using hvalue

lemma Ipnet.notMem_toDigits {c : Char} (hc : c.isDigit = false) (n : ℕ) :
    c ∉ Nat.toDigits 10 n := by
  intro hmem
  have hdigit := Nat.isDigit_of_mem_toDigits (by decide) (by decide) hmem
  rw [hc] at hdigit
  cases hdigit

lemma Ipnet.mapM_decimal (octets : List ℕ) :
    (octets.map (Nat.toDigits 10)).mapM dotted.decimal = some octets := by
  induction octets with
  | nil => rfl
  | cons o octets ih =>
      rw [List.map_cons, List.mapM_cons, decimal_toDigits o, ih]
      rfl

/-- Numbers between dots are found again. -/
lemma Ipnet.splitOn_dots {octets : List ℕ} (hne : octets ≠ []) :
    (['.'].intercalate (octets.map (Nat.toDigits 10))).splitOn '.' =
      octets.map (Nat.toDigits 10) := by
  refine List.splitOn_intercalate '.' (fun l hl => ?_) (by simpa using hne)
  obtain ⟨o, _, rfl⟩ := List.mem_map.mp hl
  exact notMem_toDigits (by decide) o

lemma Ipnet.notMem_dots {c : Char} (hc : c.isDigit = false) (hdot : c ≠ '.') (octets : List ℕ) :
    c ∉ ['.'].intercalate (octets.map (Nat.toDigits 10)) := by
  induction octets with
  | nil => simp
  | cons o octets ih =>
      cases octets with
      | nil => simpa using notMem_toDigits hc o
      | cons o' octets =>
          rw [List.map_cons, List.intercalate_cons_of_ne_nil (by simp)]
          simp only [List.mem_append, List.mem_singleton, not_or]
          exact ⟨⟨notMem_toDigits hc o, hdot⟩, ih⟩

/-- And so are the two parts that are separated by something else. -/
lemma Ipnet.splitOn_separator {c : Char} (hc : c.isDigit = false) (hdot : c ≠ '.')
    (octets : List ℕ) (n : ℕ) :
    ([c].intercalate [['.'].intercalate (octets.map (Nat.toDigits 10)),
      Nat.toDigits 10 n]).splitOn c =
      [['.'].intercalate (octets.map (Nat.toDigits 10)), Nat.toDigits 10 n] := by
  refine List.splitOn_intercalate c (fun l hl => ?_) (by simp)
  rcases List.mem_pair.mp hl with rfl | rfl
  · exact notMem_dots hc hdot octets
  · exact notMem_toDigits hc n

lemma Ipnet.dotted_roundTrips : dotted.RoundTrips := by
  rintro ⟨addr, len, haddr, hlen⟩
  set octets := [addr / 2 ^ 24, addr / 2 ^ 16 % 256, addr / 2 ^ 8 % 256, addr % 256] with hoctets
  have hlt : ∀ o ∈ octets, o < 256 := by
    simp only [hoctets, List.forall_mem_cons]
    refine ⟨?_, ?_, ?_, ?_, nofun⟩ <;> omega
  have hne : octets ≠ [] := by simp [hoctets]
  simp only [dotted, String.toList_ofList]
  rw [← hoctets, splitOn_separator (by decide) (by decide)]
  simp only [splitOn_dots hne, mapM_decimal octets, decimal_toDigits len]
  simp only [hoctets, List.forall_mem_cons] at hlt ⊢
  rw [if_pos ⟨hlt.1, hlt.2.1, hlt.2.2.1, hlt.2.2.2.1⟩, Ipv4Net.new, dif_pos hlen]
  simp only [Option.some.injEq, Ipv4Net.mk.injEq, and_true]
  omega

namespace Ipv4Net

/-- The address `ip` lies in the network. -/
def Contains (n : Ipv4Net) (ip : ℕ) : Prop := n.network ≤ ip ∧ ip ≤ n.broadcast

/-- Every address of `b` is one of `a`. -/
def Covers (a b : Ipv4Net) : Prop := ∀ ip, b.Contains ip → a.Contains ip

/-- The address of the network is its first one: no host bits are set. -/
def Aligned (n : Ipv4Net) : Prop := n.addr = n.network

lemma network_le_broadcast (n : Ipv4Net) : n.network ≤ n.broadcast := Nat.le_add_right _ _

/-- One network covers another one if its bounds do. -/
lemma covers_iff {a b : Ipv4Net} :
    a.Covers b ↔ a.network ≤ b.network ∧ b.network + b.size ≤ a.network + a.size := by
  have hb := b.network_le_broadcast
  have hapos := a.size_pos
  have hbpos := b.size_pos
  constructor
  · intro h
    have hfirst := h b.network ⟨Nat.le_refl _, hb⟩
    have hlast := h b.broadcast ⟨hb, Nat.le_refl _⟩
    simp only [Contains, broadcast] at hfirst hlast
    omega
  · intro h ip hip
    simp only [Contains, broadcast] at hip ⊢
    omega

/-- No address lies in both networks. -/
def Apart (a b : Ipv4Net) : Prop := ∀ ip, ¬ (a.Contains ip ∧ b.Contains ip)

lemma Apart.symm {a b : Ipv4Net} (h : a.Apart b) : b.Apart a := fun ip hip => h ip hip.symm

/-- **`ipv4_nets_overlap`** finds an address that lies in both networks. -/
lemma apart_iff {a b : Ipv4Net} : a.Apart b ↔ ipv4NetsOverlap a b = false := by
  have ha := a.network_le_broadcast
  have hb := b.network_le_broadcast
  constructor
  · intro h
    have hmax := h (max a.network b.network)
    simp only [Contains] at hmax
    simp only [ipv4NetsOverlap, Bool.and_eq_false_iff, decide_eq_false_iff_not]
    omega
  · intro h ip hip
    simp only [ipv4NetsOverlap, Bool.and_eq_false_iff, decide_eq_false_iff_not] at h
    simp only [Contains] at hip
    omega

/-- Different blocks of one size, each at a multiple of it. -/
lemma apart_of_aligned {a b : Ipv4Net} (hlen : a.prefixLen = b.prefixLen)
    (ha : a.size ∣ a.addr) (hb : b.size ∣ b.addr) (hne : a ≠ b) : a.Apart b := by
  have hsize : b.size = a.size := by simp only [size, hlen]
  have hpos := a.size_pos
  obtain ⟨i, hi⟩ := ha
  obtain ⟨j, hj⟩ := hb
  rw [hsize] at hj
  have hia : a.network = a.size * i := by
    rw [network, hi, Nat.mul_div_cancel_left i hpos, Nat.mul_comm]
  have hjb : b.network = a.size * j := by
    rw [network, hsize, hj, Nat.mul_div_cancel_left j hpos, Nat.mul_comm]
  have hij : i ≠ j := by
    rintro rfl
    obtain ⟨addr, len, _, _⟩ := a
    obtain ⟨addr', len', _, _⟩ := b
    simp only at hlen hi hj
    exact hne (by simp only [Ipv4Net.mk.injEq]; exact ⟨hi.trans hj.symm, hlen⟩)
  intro ip hip
  simp only [Contains, broadcast, hia, hjb, hsize] at hip
  rcases Nat.lt_or_gt_of_ne hij with hlt | hlt
  · have hstep : a.size * i + a.size ≤ a.size * j := Nat.mul_le_mul_left a.size hlt
    omega
  · have hstep : a.size * j + a.size ≤ a.size * i := Nat.mul_le_mul_left a.size hlt
    omega

end Ipv4Net

/-! ## Subnets -/

namespace RoomAddressPool

/-- How many rooms the pool has subnets for. -/
def roomCount (p : RoomAddressPool) : ℕ := shlOne (p.roomPrefixLen - p.pool.prefixLen)

/-- The subnet with a given index. -/
def subnet (p : RoomAddressPool) (index : ℕ) : Ipv4Net where
  addr := (p.pool.network + index * shlOne (32 - p.roomPrefixLen)) % 2 ^ 32
  prefixLen := p.roomPrefixLen
  addr_lt := Nat.mod_lt _ (by decide)
  prefixLen_le := p.roomPrefixLen_le.trans (by decide)

/-- The subnet is allocated to no room and clear of the networks to avoid. -/
def Free (p : RoomAddressPool) (avoid : List Ipv4Net) (n : Ipv4Net) : Prop :=
  n ∉ KeyMap.values p.allocations ∧ ∀ blocked ∈ avoid, blocked.Apart n

/-- Some subnet is free. -/
def HasFree (p : RoomAddressPool) (avoid : List Ipv4Net) : Prop :=
  ∃ index < p.roomCount, p.Free avoid (p.subnet index)

lemma mem_candidateIndices {pool : Ipv4Net} {roomPrefixLen roomCount index : ℕ} :
    index ∈ candidateIndices pool roomPrefixLen roomCount ↔ index < roomCount := by
  unfold candidateIndices
  split_ifs with h
  · obtain ⟨-, -, -, rfl⟩ := h
    simp only [List.mem_append, List.mem_range'_1, List.mem_cons, List.not_mem_nil, or_false]
    omega
  · simp only [List.mem_range'_1]
    omega

lemma findSubnet_cons (I : Ipnet) (p : RoomAddressPool) (avoid : List Ipv4Net) (index : ℕ)
    (rest : List ℕ) :
    p.findSubnet I avoid (index :: rest) =
      if p.subnet index ∉ KeyMap.values p.allocations ∧
          ¬ avoid.any fun blocked => ipv4NetsOverlap blocked (p.subnet index) then
        .ok (p.subnet index)
      else p.findSubnet I avoid rest := by
  have hlen : p.roomPrefixLen ≤ 32 := p.roomPrefixLen_le.trans (by decide)
  simp only [findSubnet, Ipv4Net.new, hlen, ↓reduceDIte]
  rfl

/-- **The search**: it returns a free subnet with one of the indices, or there is none. -/
lemma findSubnet_cases (I : Ipnet) (p : RoomAddressPool) (avoid : List Ipv4Net)
    (indices : List ℕ) :
    (∃ index ∈ indices, p.Free avoid (p.subnet index) ∧
      p.findSubnet I avoid indices = .ok (p.subnet index)) ∨
    (∀ index ∈ indices, ¬ p.Free avoid (p.subnet index)) ∧
      p.findSubnet I avoid indices = .error .addressPoolExhausted := by
  induction indices with
  | nil => exact .inr ⟨by simp, rfl⟩
  | cons index rest ih =>
      have hfree : (p.subnet index ∉ KeyMap.values p.allocations ∧
          ¬ avoid.any fun blocked => ipv4NetsOverlap blocked (p.subnet index)) ↔
          p.Free avoid (p.subnet index) := by
        simp [Free, Ipv4Net.apart_iff]
      rw [findSubnet_cons]
      by_cases h : p.Free avoid (p.subnet index)
      · exact .inl ⟨index, List.mem_cons_self, h, if_pos (hfree.mpr h)⟩
      · rw [if_neg (fun h' => h (hfree.mp h'))]
        rcases ih with ⟨i, hi, hok⟩ | ⟨hnone, herror⟩
        · exact .inl ⟨i, List.mem_cons_of_mem _ hi, hok⟩
        · refine .inr ⟨fun i hi => ?_, herror⟩
          rcases List.mem_cons.mp hi with rfl | hi
          · exact h
          · exact hnone i hi

/-- A room that has a subnet keeps it. -/
lemma allocateWithAvoidance_of_lookup {I : Ipnet} {p : RoomAddressPool} {roomId : RoomId}
    {n : Ipv4Net} (avoid : List Ipv4Net) (h : p.allocations.lookup roomId = some n) :
    p.allocateWithAvoidance I roomId avoid = .ok (n, p) := by
  rw [allocateWithAvoidance, h]

/-- **Allocation** for a room that has no subnet yet. -/
lemma allocateWithAvoidance_cases (I : Ipnet) {p : RoomAddressPool} {roomId : RoomId}
    (avoid : List Ipv4Net) (h : p.allocations.lookup roomId = none) :
    (∃ index < p.roomCount, p.Free avoid (p.subnet index) ∧
      p.allocateWithAvoidance I roomId avoid = .ok (p.subnet index,
        { p with allocations := p.allocations.insert roomId (p.subnet index) })) ∨
    ¬ p.HasFree avoid ∧
      p.allocateWithAvoidance I roomId avoid = .error .addressPoolExhausted := by
  simp only [allocateWithAvoidance, h]
  rcases findSubnet_cases I p avoid (candidateIndices p.pool p.roomPrefixLen p.roomCount) with
    ⟨index, hindex, hfree, hok⟩ | ⟨hnone, herror⟩
  · refine .inl ⟨index, mem_candidateIndices.mp hindex, hfree, ?_⟩
    rw [← roomCount, hok]
  · refine .inr ⟨?_, ?_⟩
    · rintro ⟨index, hindex, hfree⟩
      exact hnone index (mem_candidateIndices.mpr hindex) hfree
    · rw [← roomCount, herror]

/-- A new allocation is free. -/
lemma free_of_allocated {I : Ipnet} {p p' : RoomAddressPool} {roomId : RoomId}
    {avoid : List Ipv4Net} {n : Ipv4Net} (hnew : roomId ∉ p.allocations)
    (hok : p.allocateWithAvoidance I roomId avoid = .ok (n, p')) : p.Free avoid n := by
  have hlookup := AList.lookup_eq_none.mpr hnew
  rcases allocateWithAvoidance_cases I avoid hlookup with ⟨i, -, hfree, heq⟩ | ⟨-, herror⟩
  · rw [heq] at hok
    obtain ⟨rfl, -⟩ := Prod.mk.inj (Except.ok.inj hok)
    exact hfree
  · rw [herror] at hok
    cases hok

/-- **Allocation succeeds** exactly if the room has a subnet or one is free. -/
lemma allocateWithAvoidance_ok_iff {I : Ipnet} {p : RoomAddressPool} {roomId : RoomId}
    {avoid : List Ipv4Net} :
    (∃ res, p.allocateWithAvoidance I roomId avoid = .ok res) ↔
      roomId ∈ p.allocations ∨ p.HasFree avoid := by
  cases h : p.allocations.lookup roomId with
  | some n =>
      exact iff_of_true ⟨_, allocateWithAvoidance_of_lookup avoid h⟩
        (.inl (KeyMap.mem_iff_lookup.mpr ⟨n, h⟩))
  | none =>
      have hnotMem : roomId ∉ p.allocations := AList.lookup_eq_none.mp h
      rw [or_iff_right hnotMem]
      rcases allocateWithAvoidance_cases I avoid h with ⟨i, hi, hfree, hok⟩ | ⟨hnone, herror⟩
      · exact iff_of_true ⟨_, hok⟩ ⟨i, hi, hfree⟩
      · exact iff_of_false (by simp [herror]) hnone

lemma not_hasFree_of_error {I : Ipnet} {p : RoomAddressPool} {roomId : RoomId}
    {avoid : List Ipv4Net} {e : RoomError}
    (herror : p.allocateWithAvoidance I roomId avoid = .error e) : ¬ p.HasFree avoid := by
  intro hfree
  obtain ⟨res, hok⟩ := allocateWithAvoidance_ok_iff.mpr (.inr hfree)
  rw [herror] at hok
  cases hok

/-! ## Valid pools -/

/-- Every allocation is a subnet of the pool, and no two rooms have the same one. -/
structure Valid (p : RoomAddressPool) : Prop where
  subnet : ∀ {r n}, p.allocations.lookup r = some n → ∃ index, n = p.subnet index
  unique : ∀ {r r' n}, p.allocations.lookup r = some n → p.allocations.lookup r' = some n → r = r'

lemma subnet_aligned (p : RoomAddressPool) (index : ℕ) :
    (p.subnet index).size ∣ (p.subnet index).addr := by
  have hpool : 2 ^ (32 - p.roomPrefixLen) ∣ p.pool.network := by
    have hlen := p.prefixLen_le
    exact (Nat.pow_dvd_pow 2 (by omega)).mul_left _
  have hshl : 2 ^ (32 - p.roomPrefixLen) ∣ shlOne (32 - p.roomPrefixLen) := by
    unfold shlOne
    split_ifs
    · exact Nat.dvd_refl _
    · exact Nat.dvd_zero _
  have hword : 2 ^ (32 - p.roomPrefixLen) ∣ 2 ^ 32 := Nat.pow_dvd_pow 2 (Nat.sub_le _ _)
  exact (Nat.dvd_mod_iff hword).mpr (Nat.dvd_add hpool (hshl.mul_left index))

/-- **The subnets of two rooms share no address.** -/
lemma Valid.apart {p : RoomAddressPool} (h : p.Valid) {r r' : RoomId} {n n' : Ipv4Net}
    (hr : p.allocations.lookup r = some n) (hr' : p.allocations.lookup r' = some n')
    (hne : r ≠ r') : n.Apart n' := by
  obtain ⟨i, rfl⟩ := h.subnet hr
  obtain ⟨j, rfl⟩ := h.subnet hr'
  refine Ipv4Net.apart_of_aligned rfl (p.subnet_aligned i) (p.subnet_aligned j) fun heq => ?_
  exact hne (h.unique hr (heq ▸ hr'))

lemma Valid.prefixLen_le {p : RoomAddressPool} (h : p.Valid) {r : RoomId} {n : Ipv4Net}
    (hr : p.allocations.lookup r = some n) : n.prefixLen ≤ 30 := by
  obtain ⟨i, rfl⟩ := h.subnet hr
  exact p.roomPrefixLen_le

lemma valid_of_empty {p : RoomAddressPool} (h : p.allocations = ∅) : p.Valid := by
  constructor
  · intro r n hr
    rw [h] at hr
    cases hr
  · intro r r' n hr
    rw [h] at hr
    cases hr

lemma Valid.insert {p : RoomAddressPool} (h : p.Valid) {avoid : List Ipv4Net} (roomId : RoomId)
    {index : ℕ} (hfree : p.Free avoid (p.subnet index)) :
    Valid { p with allocations := p.allocations.insert roomId (p.subnet index) } := by
  have hnew : ∀ r, p.allocations.lookup r ≠ some (p.subnet index) := fun r hr =>
    hfree.1 (KeyMap.mem_values.mpr ⟨r, hr⟩)
  constructor
  · intro r n hr
    rw [KeyMap.lookup_insert_eq] at hr
    split_ifs at hr
    · exact ⟨index, (Option.some.inj hr).symm⟩
    · exact h.subnet hr
  · intro r r' n hr hr'
    rw [KeyMap.lookup_insert_eq] at hr hr'
    split_ifs at hr hr' with heq heq' heq'
    · rw [heq, heq']
    · exact absurd (hr'.trans hr.symm) (hnew r')
    · exact absurd (hr.trans hr'.symm) (hnew r)
    · exact h.unique hr hr'

lemma Valid.release {p : RoomAddressPool} (h : p.Valid) (roomId : RoomId) :
    (p.release roomId).Valid := by
  have hof : ∀ {r n}, (p.release roomId).allocations.lookup r = some n →
      p.allocations.lookup r = some n := by
    intro r n hr
    rw [RoomAddressPool.release, KeyMap.lookup_erase_eq] at hr
    split_ifs at hr
    exact hr
  exact ⟨fun hr => h.subnet (hof hr), fun hr hr' => h.unique (hof hr) (hof hr')⟩

/-- The pool after an allocation, whether or not the room had a subnet. -/
lemma Valid.allocated {I : Ipnet} {p p' : RoomAddressPool} (h : p.Valid) {roomId : RoomId}
    {avoid : List Ipv4Net} {n : Ipv4Net}
    (hok : p.allocateWithAvoidance I roomId avoid = .ok (n, p')) :
    p'.Valid ∧ ∀ r, p'.allocations.lookup r =
      if r = roomId then some n else p.allocations.lookup r := by
  cases hlookup : p.allocations.lookup roomId with
  | some m =>
      rw [allocateWithAvoidance_of_lookup avoid hlookup] at hok
      obtain ⟨rfl, rfl⟩ := Prod.mk.inj (Except.ok.inj hok)
      refine ⟨h, fun r => ?_⟩
      split_ifs with heq
      · rw [heq, hlookup]
      · rfl
  | none =>
      rcases allocateWithAvoidance_cases I avoid hlookup with ⟨i, -, hfree, heq⟩ | ⟨-, herror⟩
      · rw [heq] at hok
        obtain ⟨rfl, rfl⟩ := Prod.mk.inj (Except.ok.inj hok)
        exact ⟨h.insert roomId hfree, fun r => KeyMap.lookup_insert_eq _ _ _ _⟩
      · rw [herror] at hok
        cases hok

/-! ## The bounds of the subnets -/

/-- The subnets fill the pool. -/
lemma roomCount_mul_size (p : RoomAddressPool) :
    p.roomCount * 2 ^ (32 - p.roomPrefixLen) = p.pool.size := by
  have hle := p.prefixLen_le
  have hroom := p.roomPrefixLen_le
  rw [roomCount, shlOne, if_pos (by omega), ← Nat.pow_add, Ipv4Net.size]
  congr 1
  omega

/-- The offset of a subnet.  A pool of one subnet of all addresses has the index `0` alone, so
that it does not matter that the shift by 32 gives `0`. -/
lemma index_mul_shlOne {p : RoomAddressPool} {index : ℕ} (h : index < p.roomCount) :
    index * shlOne (32 - p.roomPrefixLen) = index * 2 ^ (32 - p.roomPrefixLen) := by
  unfold shlOne
  split_ifs with hlt
  · rfl
  · have hlen := p.prefixLen_le
    have hzero : p.roomPrefixLen = 0 := by omega
    have hcount : p.roomCount = 1 := by simp [roomCount, hzero, shlOne]
    have hindex : index = 0 := by omega
    rw [hindex, Nat.zero_mul, Nat.zero_mul]

/-- A subnet ends inside the pool. -/
lemma offset_add_size_le {p : RoomAddressPool} {index : ℕ} (h : index < p.roomCount) :
    index * shlOne (32 - p.roomPrefixLen) + 2 ^ (32 - p.roomPrefixLen) ≤ p.pool.size := by
  rw [index_mul_shlOne h, ← Nat.succ_mul, ← p.roomCount_mul_size]
  exact Nat.mul_le_mul_right _ h

/-- **No overflow**: neither the product nor the sum leaves the `u32` range. -/
lemma offset_lt {p : RoomAddressPool} {index : ℕ} (h : index < p.roomCount) :
    p.pool.network + index * shlOne (32 - p.roomPrefixLen) < 2 ^ 32 := by
  have hend := offset_add_size_le h
  have hpool := p.pool.network_add_size_le
  have hpos := Nat.two_pow_pos (32 - p.roomPrefixLen)
  omega

lemma subnet_network {p : RoomAddressPool} {index : ℕ} (h : index < p.roomCount) :
    (p.subnet index).network = p.pool.network + index * shlOne (32 - p.roomPrefixLen) := by
  rw [Ipv4Net.network, Nat.div_mul_cancel (p.subnet_aligned index)]
  exact Nat.mod_eq_of_lt (offset_lt h)

lemma size_of_prefixLen {p : RoomAddressPool} {n : Ipv4Net} (h : n.prefixLen = p.roomPrefixLen) :
    n.size = 2 ^ (32 - p.roomPrefixLen) := by
  rw [Ipv4Net.size, h]

/-- A subnet is aligned and lies in the pool. -/
lemma subnet_sound {p : RoomAddressPool} {index : ℕ} (h : index < p.roomCount) :
    (p.subnet index).Aligned ∧ p.pool.Covers (p.subnet index) := by
  constructor
  · rw [Ipv4Net.Aligned, subnet_network h]
    exact Nat.mod_eq_of_lt (offset_lt h)
  · have hend := offset_add_size_le h
    rw [Ipv4Net.covers_iff, subnet_network h, size_of_prefixLen rfl]
    omega

/-- A room-sized network in the pool starts at a multiple of its size from the pool's start. -/
lemma exists_index {p : RoomAddressPool} {n : Ipv4Net} (hlen : n.prefixLen = p.roomPrefixLen)
    (hcovers : p.pool.Covers n) : ∃ index < p.roomCount,
      n.network = p.pool.network + index * 2 ^ (32 - p.roomPrefixLen) := by
  obtain ⟨hfirst, hlast⟩ := Ipv4Net.covers_iff.mp hcovers
  have hpos := Nat.two_pow_pos (32 - p.roomPrefixLen)
  rw [size_of_prefixLen hlen] at hlast
  -- both ends of the offset are multiples of the size of a room
  have hpool : 2 ^ (32 - p.roomPrefixLen) ∣ p.pool.network := by
    have hle := p.prefixLen_le
    exact (Nat.pow_dvd_pow 2 (by omega)).mul_left _
  have hnet : 2 ^ (32 - p.roomPrefixLen) ∣ n.network := by
    rw [Ipv4Net.network, size_of_prefixLen hlen]
    exact Nat.dvd_mul_left _ _
  obtain ⟨index, hindex⟩ := Nat.dvd_sub hnet hpool
  rw [Nat.mul_comm] at hindex
  refine ⟨index, ?_, by omega⟩
  have hmul : (index + 1) * 2 ^ (32 - p.roomPrefixLen) ≤
      p.roomCount * 2 ^ (32 - p.roomPrefixLen) := by
    rw [p.roomCount_mul_size, Nat.succ_mul, ← hindex]
    omega
  exact Nat.le_of_mul_le_mul_right hmul hpos

/-- **The subnets are the room-sized networks of the pool.** -/
lemma exists_subnet_iff {p : RoomAddressPool} {n : Ipv4Net} :
    (∃ index < p.roomCount, n = p.subnet index) ↔
      n.prefixLen = p.roomPrefixLen ∧ n.Aligned ∧ p.pool.Covers n := by
  constructor
  · rintro ⟨index, hindex, rfl⟩
    exact ⟨rfl, subnet_sound hindex⟩
  · rintro ⟨hlen, haligned, hcovers⟩
    obtain ⟨index, hindex, hnetwork⟩ := exists_index hlen hcovers
    refine ⟨index, hindex, ?_⟩
    have haddr : n.addr = (p.subnet index).addr := by
      have hsub : (p.subnet index).addr =
          p.pool.network + index * shlOne (32 - p.roomPrefixLen) :=
        Nat.mod_eq_of_lt (offset_lt hindex)
      rw [hsub, haligned, index_mul_shlOne hindex, hnetwork]
    obtain ⟨addr, len, _, _⟩ := n
    simp only at hlen haddr
    rw [Ipv4Net.mk.injEq]
    exact ⟨haddr, hlen⟩

/-! ## Histories of the pool -/

/-- A call of one of the pool's methods. -/
inductive Op where
  | allocate (roomId : RoomId)
  | allocateWithAvoidance (roomId : RoomId) (avoid : List Ipv4Net)
  | release (roomId : RoomId)

/-- The pool after an allocation; a failed one leaves it as it was. -/
def allocated (p : RoomAddressPool) :
    Except RoomError (Ipv4Net × RoomAddressPool) → RoomAddressPool
  | .ok (_, p') => p'
  | .error _ => p

/-- The pool after a call. -/
def step (I : Ipnet) (p : RoomAddressPool) : Op → RoomAddressPool
  | .allocate roomId => p.allocated (p.allocate I roomId)
  | .allocateWithAvoidance roomId avoid => p.allocated (p.allocateWithAvoidance I roomId avoid)
  | .release roomId => p.release roomId

/-- The pool hands out subnets of `network` with the given prefix length, and what is out are such
subnets, each at most once. -/
structure Serves (network : Ipv4Net) (roomPrefixLen : ℕ) (p : RoomAddressPool) : Prop where
  pool : p.pool = network
  roomPrefixLen : p.roomPrefixLen = roomPrefixLen
  valid : p.Valid
  index : ∀ {r n}, p.allocations.lookup r = some n → ∃ index < p.roomCount, n = p.subnet index

lemma serves_new {I : Ipnet} {pool : String} {roomPrefixLen : ℕ} {p : RoomAddressPool}
    (h : new I pool roomPrefixLen = .ok p) : p.Serves p.pool roomPrefixLen := by
  unfold new at h
  split at h
  · cases h
  · split_ifs at h with hlen
    cases h
    refine ⟨rfl, rfl, valid_of_empty rfl, ?_⟩
    rintro r n ⟨⟩

/-- One allocation keeps the pool in order. -/
lemma Serves.allocated {network : Ipv4Net} {len : ℕ} {I : Ipnet} {p : RoomAddressPool}
    (h : p.Serves network len) (roomId : RoomId) (avoid : List Ipv4Net) :
    (p.allocated (p.allocateWithAvoidance I roomId avoid)).Serves network len := by
  cases hlookup : p.allocations.lookup roomId with
  | some n =>
      rw [allocateWithAvoidance_of_lookup avoid hlookup]
      exact h
  | none =>
      rcases allocateWithAvoidance_cases I avoid hlookup with ⟨i, hi, hfree, hok⟩ | ⟨-, herror⟩
      · rw [hok]
        refine ⟨h.pool, h.roomPrefixLen, h.valid.insert roomId hfree, ?_⟩
        intro r n hr
        change (p.allocations.insert roomId (p.subnet i)).lookup r = some n at hr
        rw [KeyMap.lookup_insert_eq] at hr
        split_ifs at hr
        · exact ⟨i, hi, (Option.some.inj hr).symm⟩
        · exact h.index hr
      · rw [herror]
        exact h

lemma Serves.release {network : Ipv4Net} {len : ℕ} {p : RoomAddressPool}
    (h : p.Serves network len) (roomId : RoomId) : (p.release roomId).Serves network len := by
  refine ⟨h.pool, h.roomPrefixLen, h.valid.release roomId, ?_⟩
  intro r n hr
  rw [RoomAddressPool.release, KeyMap.lookup_erase_eq] at hr
  split_ifs at hr
  exact h.index hr

lemma Serves.step {network : Ipv4Net} {len : ℕ} {I : Ipnet} {p : RoomAddressPool}
    (h : p.Serves network len) (op : Op) : (p.step I op).Serves network len := by
  cases op with
  | allocate roomId => exact h.allocated roomId []
  | allocateWithAvoidance roomId avoid => exact h.allocated roomId avoid
  | release roomId => exact h.release roomId

/-- **The pool over every history of calls.**  The networks that are out are room-sized, aligned,
inside the pool and apart from each other.  A new one is clear of the networks to avoid, an
allocation fails only if no room-sized network of the pool is left, and the addresses the search
computes do not overflow. -/
theorem pool_allocations_sound {I : Ipnet} {pool : String} {roomPrefixLen : ℕ}
    {p₀ : RoomAddressPool} (hnew : new I pool roomPrefixLen = .ok p₀) (ops : List Op) :
    let p := Run.run (step I) p₀ ops
    (∀ r n, p.allocations.lookup r = some n →
      n.prefixLen = roomPrefixLen ∧ n.Aligned ∧ p₀.pool.Covers n) ∧
    (∀ r r' n n', r ≠ r' → p.allocations.lookup r = some n →
      p.allocations.lookup r' = some n' → n.Apart n') ∧
    (∀ r avoid n p', r ∉ p.allocations → p.allocateWithAvoidance I r avoid = .ok (n, p') →
      ∀ blocked ∈ avoid, blocked.Apart n) ∧
    (∀ r avoid, p.allocateWithAvoidance I r avoid = .error .addressPoolExhausted →
      ∀ n : Ipv4Net, n.prefixLen = roomPrefixLen → n.Aligned → p₀.pool.Covers n →
        n ∈ KeyMap.values p.allocations ∨ ∃ blocked ∈ avoid, ¬ blocked.Apart n) ∧
    ∀ index ∈ candidateIndices p.pool p.roomPrefixLen p.roomCount,
      index * shlOne (32 - p.roomPrefixLen) < 2 ^ 32 ∧
        p.pool.network + index * shlOne (32 - p.roomPrefixLen) < 2 ^ 32 := by
  intro p
  have h : p.Serves p₀.pool roomPrefixLen :=
    Run.invariant_forall (fun _ op hp => hp.step op) ops p₀ (serves_new hnew)
  have hsubnet : ∀ n, (∃ index < p.roomCount, n = p.subnet index) ↔
      n.prefixLen = roomPrefixLen ∧ n.Aligned ∧ p₀.pool.Covers n := by
    intro n
    rw [exists_subnet_iff, h.roomPrefixLen, h.pool]
  refine ⟨?_, ?_, ?_, ?_, ?_⟩
  · intro r n hr
    exact (hsubnet n).mp (h.index hr)
  · intro r r' n n' hne hr hr'
    exact h.valid.apart hr hr' hne
  · intro r avoid n p' hr hok
    exact (free_of_allocated hr hok).2
  · intro r avoid herror n hlen haligned hcovers
    obtain ⟨index, hindex, rfl⟩ := (hsubnet n).mpr ⟨hlen, haligned, hcovers⟩
    by_contra hcon
    push Not at hcon
    exact not_hasFree_of_error herror ⟨index, hindex, hcon⟩
  · intro index hindex
    have hlt := offset_lt (mem_candidateIndices.mp hindex)
    exact ⟨by omega, hlt⟩

/-- The default pool, after two rooms came and one of them went: what the other one has. -/
theorem pool_allocations_sound_default :
    ∃ n, (Run.run (step .dotted) default [.allocate ⟨ByteArr.fill 16 1⟩,
      .allocate ⟨ByteArr.fill 16 2⟩, .release ⟨ByteArr.fill 16 1⟩]).allocations.lookup
        ⟨ByteArr.fill 16 2⟩ = some n ∧
      n.prefixLen = 24 ∧ n.Aligned ∧ default.pool.Covers n := by
  have hnew : new .dotted "192.168.0.0/16" 24 = .ok default := rfl
  have hsome : ((Run.run (step .dotted) default [.allocate ⟨ByteArr.fill 16 1⟩,
      .allocate ⟨ByteArr.fill 16 2⟩, .release ⟨ByteArr.fill 16 1⟩]).allocations.lookup
        ⟨ByteArr.fill 16 2⟩).isSome = true := by
    decide +kernel
  obtain ⟨n, hn⟩ := Option.isSome_iff_exists.mp hsome
  exact ⟨n, hn, (pool_allocations_sound hnew _).1 _ _ hn⟩

end RoomAddressPool

/-! ## Addresses in a room -/

namespace Room

/-- The node can have an address in the room: its lease is not some other member's address, or a
host address is neither a member's nor leased. -/
def Available (I : Ipnet) (room : Room) (nodeId : NodeId) (role : MemberRole) : Prop :=
  (∃ ip, room.ipLeases.lookup nodeId = some ip ∧
    ∀ member ∈ KeyMap.values room.members, member.nodeId ≠ nodeId → member.virtualIp ≠ ip) ∨
  ∃ network, I.parse room.virtualCidr = some network ∧ ∃ host ∈ hosts network role,
    VirtualIp.ofNat (network.network + host) ∉
      (KeyMap.values room.members).map Member.virtualIp ++ KeyMap.values room.ipLeases

/-- **`allocate_ip`** succeeds exactly if there is an address for the node. -/
lemma allocateIp_ok_iff {I : Ipnet} {room : Room} {nodeId : NodeId} {role : MemberRole} :
    (∃ ip, (room.allocateIp I nodeId role).1 = .ok ip) ↔ room.Available I nodeId role := by
  have hlease : ∀ ip, (room.ipLeases.lookup nodeId).filter (fun ip =>
      !(KeyMap.values room.members).any fun member =>
        member.nodeId ≠ nodeId ∧ member.virtualIp = ip) = some ip ↔
      room.ipLeases.lookup nodeId = some ip ∧
        ∀ member ∈ KeyMap.values room.members, member.nodeId ≠ nodeId → member.virtualIp ≠ ip := by
    intro ip
    simp [Option.filter_eq_some_iff]
  unfold allocateIp Available
  simp only [findHost_eq_find?]
  split
  · rename_i ip hip
    exact iff_of_true ⟨_, rfl⟩ (.inl ⟨ip, (hlease ip).mp hip⟩)
  · rename_i hnone
    have hno : ¬ ∃ ip, room.ipLeases.lookup nodeId = some ip ∧
        ∀ member ∈ KeyMap.values room.members, member.nodeId ≠ nodeId → member.virtualIp ≠ ip := by
      rintro ⟨ip, hip⟩
      rw [(hlease ip).mpr hip] at hnone
      cases hnone
    rw [or_iff_right hno]
    cases hparse : I.parse room.virtualCidr with
    | none => simp
    | some network =>
        simp only [Option.some.injEq, exists_eq_left']
        split
        · rename_i candidate hfind
          have hmem := List.mem_of_find?_eq_some hfind
          have hunused := List.find?_some hfind
          obtain ⟨host, hhost, rfl⟩ := List.mem_map.mp hmem
          exact iff_of_true ⟨_, rfl⟩ ⟨host, hhost, of_decide_eq_true hunused⟩
        · rename_i hfind
          refine iff_of_false (by simp) ?_
          rintro ⟨host, hhost, hunused⟩
          exact List.find?_eq_none.mp hfind _ (List.mem_map_of_mem hhost) (decide_eq_true hunused)

lemma addOrReuse_ok_iff {I : Ipnet} {room : Room} {nodeId : NodeId} {nickname : String}
    {role : MemberRole} :
    (∃ res, room.addOrReuse I nodeId nickname role = .ok res) ↔
      room.Available I nodeId role := by
  rw [← allocateIp_ok_iff, addOrReuse, addOrReuseMember]
  rcases room.allocateIp I nodeId role with ⟨result, room'⟩
  cases result <;> simp

/-- A room of at least four addresses has one for its first member. -/
lemma available_new {I : Ipnet} {roomId : RoomId} {name : String} {owner : NodeId}
    {virtualCidr joinToken : String} {network : Ipv4Net}
    (hparse : I.parse virtualCidr = some network)
    (hlen : network.prefixLen ≤ 30) (nodeId : NodeId) (role : MemberRole) :
    (Room.new roomId name owner virtualCidr joinToken).Available I nodeId role := by
  have hsize : 2 ^ 2 ≤ network.size := Nat.pow_le_pow_right (by decide) (by omega)
  refine .inr ⟨network, hparse, 2, ?_, ?_⟩
  · simp only [hosts, preferredHost, List.mem_range'_1]
    split_ifs <;> omega
  · simp [Room.new, KeyMap.values]

end Room

end R2N
