import R2N.Edge.Candidates

/-!
# Predicting the ports of a symmetric NAT

`r2n-nat` asks several servers which public address they see.  A NAT that gives each of them
another port may do so in equal steps; then the ports to come can be guessed.

* `fingerprint`, `inferNatType`, `inferPortDeltaPattern` — what the answers say about the NAT.
* `predictFromFingerprint` — the addresses that are tried: eight steps onwards, and the ports next
  to the highest one.
* **`inferPortDeltaPattern_eq_some_iff`** — a step is found exactly if the sorted ports are an
  arithmetic progression.
* **`mem_predicted_iff`**, **`nodup_predicted`** — what is tried, and that nothing is tried twice.
* **`port_prediction`** — both together.

Ports are numbers of 16 bits and a step is at most 16, so the sums, which the source takes in
`i32`, are taken in `ℤ`.
-/

namespace R2N

structure NatFingerprint where
  natType : NatType
  publicAddrs : List SocketAddr
  endpointIndependentMapping : Bool
  portPreserving : Bool
  portDeltaPattern : Option ℤ
  /-- In seconds. -/
  bindingLifetime : ℕ
  hairpinSupported : Bool
  udpRestricted : Bool

/-- `addr.port() as i32`. -/
def SocketAddr.portInt (addr : SocketAddr) : ℤ := addr.port.toNat

/-- `infer_nat_type`. -/
def inferNatType (publicAddrs : List SocketAddr) : NatType :=
  if publicAddrs.length < 2 then .unknown
  else if (publicAddrs.zip publicAddrs.tail).all fun window => window.1 = window.2 then .cone
  else .symmetric

/-- The ports in ascending order. -/
def sortedPorts (publicAddrs : List SocketAddr) : List ℤ :=
  ((publicAddrs.map (·.port)).insertionSort (· ≤ ·)).map fun port => (port.toNat : ℤ)

/-- `infer_port_delta_pattern`. -/
def inferPortDeltaPattern (publicAddrs : List SocketAddr) : Option ℤ :=
  if publicAddrs.length < 2 then none
  else
    let deltas := Adjacent.differences (sortedPorts publicAddrs)
    match deltas with
    -- two ports have a difference, so that indexing the first delta does not fail
    | [] => none
    | firstDelta :: _ =>
        if (1 ≤ firstDelta ∧ firstDelta ≤ 16) ∧ deltas.all (· = firstDelta) then some firstDelta
        else none

/-- What `NatProbe::fingerprint` makes of the servers that answered, each with the address it saw
and its round trip time. -/
def fingerprint (activeServers : List (SocketAddr × ℕ)) (localPort : UInt16) : NatFingerprint :=
  let publicAddrs := ((activeServers.insertionSort (·.2 ≤ ·.2)).take 5).map (·.1)
  { natType := inferNatType publicAddrs
    publicAddrs
    endpointIndependentMapping := publicAddrs.all fun addr => some addr = publicAddrs.head?
    portPreserving := (publicAddrs.head?.map fun addr => decide (addr.port = localPort)).getD false
    portDeltaPattern := inferPortDeltaPattern publicAddrs
    bindingLifetime := 30
    hairpinSupported := false
    udpRestricted := false }

/-- `max_by_key(port)`: the last of the addresses with the highest port. -/
def highestAddr : List SocketAddr → Option SocketAddr
  | [] => none
  | addr :: rest =>
      match highestAddr rest with
      | none => some addr
      | some best => if best.port < addr.port then some addr else some best

/-- An address with a predicted port, if there is such a port. -/
def predictedAddr (ip : IpAddr) (p : ℤ) : Option SocketAddr :=
  if 0 < p ∧ p ≤ 65535 then some { ip, port := UInt16.ofNat p.toNat } else none

/-- The first loop of `predict_from_fingerprint`. -/
def predictForward (ip : IpAddr) (maxPort delta : ℤ) : List SocketAddr :=
  (List.range' 1 8).filterMap fun i : ℕ => predictedAddr ip (maxPort + delta * (i : ℤ))

/-- One round of the second loop. -/
def addNeighbour (ip : IpAddr) (maxPort : ℤ) (predicted : List SocketAddr) (d : ℤ) :
    List SocketAddr :=
  if d = 0 then predicted
  else
    match predictedAddr ip (maxPort + d) with
    | none => predicted
    | some addr => if addr ∈ predicted then predicted else predicted ++ [addr]

/-- `-8..=8`. -/
def neighbourOffsets : List ℤ := (List.range 17).map fun k : ℕ => (k : ℤ) - 8

/-- `predict_from_fingerprint`. -/
def predictFromFingerprint (fp : NatFingerprint) : Option (List SocketAddr) :=
  if fp.natType ≠ .symmetric then none
  else
    (highestAddr fp.publicAddrs).map fun lastAddr =>
      let ip := lastAddr.ip
      let maxPort := lastAddr.portInt
      let delta := fp.portDeltaPattern.getD 1
      neighbourOffsets.foldl (addNeighbour ip maxPort) (predictForward ip maxPort delta)

/-! ## The step -/

@[simp] lemma length_sortedPorts (publicAddrs : List SocketAddr) :
    (sortedPorts publicAddrs).length = publicAddrs.length := by
  simp [sortedPorts]

lemma sortedPorts_perm (publicAddrs : List SocketAddr) :
    (sortedPorts publicAddrs).Perm (publicAddrs.map SocketAddr.portInt) := by
  have hsort := (List.perm_insertionSort (· ≤ ·) (publicAddrs.map (·.port))).map
    fun port => (port.toNat : ℤ)
  rw [List.map_map] at hsort
  exact hsort

lemma sortedPorts_pairwise (publicAddrs : List SocketAddr) :
    (sortedPorts publicAddrs).Pairwise (· ≤ ·) := by
  have hsort := List.pairwise_insertionSort (· ≤ ·) (publicAddrs.map (·.port))
  refine hsort.map _ fun a b hab => ?_
  exact_mod_cast UInt16.le_iff_toNat_le.mp hab

/-- The ascending order of the ports is one list, whatever order they were observed in. -/
lemma eq_sortedPorts {publicAddrs : List SocketAddr} {ports : List ℤ}
    (hperm : ports.Perm (publicAddrs.map SocketAddr.portInt)) (hsorted : ports.Pairwise (· ≤ ·)) :
    ports = sortedPorts publicAddrs :=
  (hperm.trans (sortedPorts_perm publicAddrs).symm).eq_of_pairwise
    (fun _ _ _ _ hab hba => le_antisymm hab hba) hsorted (sortedPorts_pairwise publicAddrs)

lemma sortedPorts_congr {publicAddrs publicAddrs' : List SocketAddr}
    (h : publicAddrs.Perm publicAddrs') : sortedPorts publicAddrs = sortedPorts publicAddrs' :=
  eq_sortedPorts ((sortedPorts_perm publicAddrs).trans (h.map _))
    (sortedPorts_pairwise publicAddrs)

lemma inferPortDeltaPattern_congr {publicAddrs publicAddrs' : List SocketAddr}
    (h : publicAddrs.Perm publicAddrs') :
    inferPortDeltaPattern publicAddrs = inferPortDeltaPattern publicAddrs' := by
  rw [inferPortDeltaPattern, inferPortDeltaPattern, h.length_eq, sortedPorts_congr h]

/-- **The step that is found** is that of an arithmetic progression. -/
theorem inferPortDeltaPattern_eq_some_iff (publicAddrs : List SocketAddr) (d : ℤ) :
    inferPortDeltaPattern publicAddrs = some d ↔
      2 ≤ publicAddrs.length ∧ 1 ≤ d ∧ d ≤ 16 ∧
        ∃ a, sortedPorts publicAddrs = Adjacent.progression a d publicAddrs.length := by
  rw [inferPortDeltaPattern, ← length_sortedPorts publicAddrs]
  cases hports : sortedPorts publicAddrs with
  | nil => simp
  | cons a rest =>
      cases rest with
      | nil => simp
      | cons b rest =>
          have hprogression := Adjacent.forall_differences_iff a d (b :: rest)
          have hstart : (∃ a', a :: b :: rest =
                Adjacent.progression a' d (a :: b :: rest).length) ↔
              a :: b :: rest = Adjacent.progression a d ((b :: rest).length + 1) := by
            constructor
            · rintro ⟨a', ha'⟩
              have hhead := ha'
              rw [List.length_cons, Adjacent.progression_succ, List.cons.injEq] at hhead
              rw [hhead.1]
              exact hhead.1 ▸ ha'
            · exact fun h => ⟨a, h⟩
          rw [hstart, ← hprogression, Adjacent.differences_cons_cons]
          simp only [List.length_cons, List.all_cons, List.forall_mem_cons, Bool.and_eq_true,
            List.all_eq_true, decide_eq_true_eq, true_and]
          rw [if_neg (by omega)]
          constructor
          · intro h
            split_ifs at h with hall
            cases h
            exact ⟨by omega, hall.1.1, hall.1.2, rfl, hall.2⟩
          · rintro ⟨_, hlow, hhigh, rfl, hrest⟩
            exact if_pos ⟨⟨hlow, hhigh⟩, hrest⟩

/-! ## The highest port -/

lemma highestAddr_isSome {publicAddrs : List SocketAddr} (h : publicAddrs ≠ []) :
    ∃ lastAddr, highestAddr publicAddrs = some lastAddr := by
  cases publicAddrs with
  | nil => exact absurd rfl h
  | cons addr rest =>
      rw [highestAddr]
      cases highestAddr rest with
      | none => exact ⟨addr, rfl⟩
      | some best =>
          by_cases hlt : best.port < addr.port
          · exact ⟨addr, if_pos hlt⟩
          · exact ⟨best, if_neg hlt⟩

lemma highestAddr_max {publicAddrs : List SocketAddr} {lastAddr : SocketAddr}
    (h : highestAddr publicAddrs = some lastAddr) :
    lastAddr ∈ publicAddrs ∧ ∀ addr ∈ publicAddrs, addr.port ≤ lastAddr.port := by
  induction publicAddrs generalizing lastAddr with
  | nil => cases h
  | cons addr rest ih =>
      rw [highestAddr] at h
      cases hrest : highestAddr rest with
      | none =>
          have hnil : rest = [] := by
            by_contra hne
            have hsome := highestAddr_isSome hne
            simp [hrest] at hsome
          subst hnil
          rw [hrest] at h
          cases h
          simp
      | some best =>
          have hbest := ih hrest
          rw [hrest] at h
          simp only at h
          split_ifs at h with hlt
          · cases h
            refine ⟨List.mem_cons_self, ?_⟩
            intro other hother
            rcases List.mem_cons.mp hother with rfl | hother
            · exact UInt16.le_refl _
            · exact UInt16.le_trans (hbest.2 other hother) (UInt16.le_of_lt hlt)
          · cases h
            refine ⟨List.mem_cons_of_mem _ hbest.1, ?_⟩
            intro other hother
            rcases List.mem_cons.mp hother with rfl | hother
            · exact UInt16.not_lt.mp hlt
            · exact hbest.2 other hother

/-- Of several addresses with the highest port one is taken; its port is theirs. -/
lemma highestAddr_eq {publicAddrs : List SocketAddr} {top : SocketAddr} (hmem : top ∈ publicAddrs)
    (htop : ∀ addr ∈ publicAddrs, addr.port ≤ top.port) :
    ∃ lastAddr, highestAddr publicAddrs = some lastAddr ∧ lastAddr.portInt = top.portInt := by
  obtain ⟨lastAddr, hlast⟩ := highestAddr_isSome (List.ne_nil_of_mem hmem)
  have hmax := highestAddr_max hlast
  have hport : lastAddr.port = top.port :=
    UInt16.le_antisymm (htop lastAddr hmax.1) (hmax.2 top hmem)
  exact ⟨lastAddr, hlast, by rw [SocketAddr.portInt, hport, SocketAddr.portInt]⟩

/-! ## The predicted addresses -/

/-- An address with a port from 1 to 65535 is predicted for that port. -/
lemma predictedAddr_eq_some_iff {ip : IpAddr} {p : ℤ} {addr : SocketAddr} :
    predictedAddr ip p = some addr ↔ addr.ip = ip ∧ addr.portInt = p ∧ 0 < p := by
  obtain ⟨ip', port⟩ := addr
  have hlt := port.toNat_lt
  rw [predictedAddr]
  split_ifs with hp
  · have hport : UInt16.ofNat p.toNat = port ↔ (port.toNat : ℤ) = p := by
      rw [← UInt16.toNat_inj, UInt16.toNat_ofNat_of_lt' (by simp only [UInt16.size]; omega)]
      omega
    simp only [Option.some.injEq, SocketAddr.mk.injEq, SocketAddr.portInt, hport, hp.1, and_true]
    rw [eq_comm]
  · simp only [SocketAddr.portInt, false_iff]
    omega

lemma nodup_predictForward (ip : IpAddr) (maxPort : ℤ) {delta : ℤ} (hdelta : 1 ≤ delta) :
    (predictForward ip maxPort delta).Nodup := by
  refine List.Nodup.filterMap ?_ (List.nodup_range' 1)
  intro i j addr hi hj
  rw [Option.mem_def, predictedAddr_eq_some_iff] at hi hj
  have hmul : delta * (i : ℤ) = delta * (j : ℤ) := by
    have hports := hi.2.1.symm.trans hj.2.1
    omega
  have hne : delta ≠ 0 := by omega
  exact_mod_cast mul_left_cancel₀ hne hmul

lemma nodup_addNeighbours (ip : IpAddr) (maxPort : ℤ) (offsets : List ℤ)
    {predicted : List SocketAddr} (h : predicted.Nodup) :
    (offsets.foldl (addNeighbour ip maxPort) predicted).Nodup := by
  induction offsets generalizing predicted with
  | nil => exact h
  | cons d offsets ih =>
      refine ih ?_
      rw [addNeighbour]
      split_ifs with hd
      · exact h
      · cases predictedAddr ip (maxPort + d) with
        | none => exact h
        | some addr =>
            by_cases hmem : addr ∈ predicted
            · simpa [hmem] using h
            · have hnew : (predicted ++ [addr]).Nodup := by
                rw [List.nodup_append_comm, List.singleton_append, List.nodup_cons]
                exact ⟨hmem, h⟩
              simpa [hmem] using hnew

lemma mem_addNeighbour {ip : IpAddr} {maxPort : ℤ} {predicted : List SocketAddr} {d : ℤ}
    {addr : SocketAddr} :
    addr ∈ addNeighbour ip maxPort predicted d ↔
      addr ∈ predicted ∨ d ≠ 0 ∧ predictedAddr ip (maxPort + d) = some addr := by
  rw [addNeighbour]
  split_ifs with hd
  · simp [hd]
  · cases hp : predictedAddr ip (maxPort + d) with
    | none => simp
    | some new =>
        by_cases hmem : new ∈ predicted
        · simp only [hmem, if_true, ne_eq, hd, not_false_eq_true, true_and, Option.some.injEq]
          exact ⟨Or.inl, fun h => h.elim id fun heq => heq ▸ hmem⟩
        · simp [hmem, hd, eq_comm]

lemma mem_addNeighbours {ip : IpAddr} {maxPort : ℤ} (offsets : List ℤ)
    {predicted : List SocketAddr} {addr : SocketAddr} :
    addr ∈ offsets.foldl (addNeighbour ip maxPort) predicted ↔
      addr ∈ predicted ∨ ∃ d ∈ offsets, d ≠ 0 ∧ predictedAddr ip (maxPort + d) = some addr := by
  induction offsets generalizing predicted with
  | nil => simp
  | cons d offsets ih =>
      rw [List.foldl_cons, ih, mem_addNeighbour, or_assoc, List.exists_mem_cons_iff]

lemma mem_predictForward {ip : IpAddr} {maxPort delta : ℤ} {addr : SocketAddr} :
    addr ∈ predictForward ip maxPort delta ↔
      ∃ i : ℕ, (1 ≤ i ∧ i ≤ 8) ∧ predictedAddr ip (maxPort + delta * (i : ℤ)) = some addr := by
  rw [predictForward, List.mem_filterMap]
  refine exists_congr fun i => and_congr_left fun _ => ?_
  rw [List.mem_range'_1]
  omega

lemma mem_neighbourOffsets (d : ℤ) : d ∈ neighbourOffsets ↔ -8 ≤ d ∧ d ≤ 8 := by
  rw [neighbourOffsets, List.mem_map]
  constructor
  · rintro ⟨k, hk, rfl⟩
    rw [List.mem_range] at hk
    omega
  · rintro ⟨hlow, hhigh⟩
    exact ⟨(d + 8).toNat, by rw [List.mem_range]; omega, by omega⟩

/-- **What is tried** around the highest port. -/
theorem mem_predicted_iff {ip : IpAddr} {maxPort delta : ℤ} {addr : SocketAddr} :
    addr ∈ neighbourOffsets.foldl (addNeighbour ip maxPort) (predictForward ip maxPort delta) ↔
      addr.ip = ip ∧ 0 < addr.portInt ∧
        ((∃ i : ℕ, (1 ≤ i ∧ i ≤ 8) ∧ addr.portInt = maxPort + delta * i) ∨
          addr.portInt ≠ maxPort ∧ |addr.portInt - maxPort| ≤ 8) := by
  rw [mem_addNeighbours, mem_predictForward]
  simp only [predictedAddr_eq_some_iff, mem_neighbourOffsets, abs_le]
  constructor
  · rintro (⟨i, hi, hip, hport, hpos⟩ | ⟨d, hd, hne, hip, hport, hpos⟩)
    · exact ⟨hip, by omega, Or.inl ⟨i, hi, hport⟩⟩
    · exact ⟨hip, by omega, Or.inr ⟨by omega, by omega, by omega⟩⟩
  · rintro ⟨hip, hpos, ⟨i, hi, hport⟩ | ⟨hne, hlow, hhigh⟩⟩
    · exact Or.inl ⟨i, hi, hip, hport, by omega⟩
    · exact Or.inr ⟨addr.portInt - maxPort, ⟨hlow, hhigh⟩, by omega, hip, by omega, by omega⟩

/-- Nothing is tried twice. -/
theorem nodup_predicted (ip : IpAddr) (maxPort : ℤ) {delta : ℤ} (hdelta : 1 ≤ delta) :
    (neighbourOffsets.foldl (addNeighbour ip maxPort)
      (predictForward ip maxPort delta)).Nodup :=
  nodup_addNeighbours ip maxPort neighbourOffsets (nodup_predictForward ip maxPort hdelta)

/-! ## Fingerprints -/

/-- What a symmetric fingerprint with a step is predicted to use next. -/
lemma predictFromFingerprint_of_pattern {fp : NatFingerprint} {d : ℤ}
    (hsymmetric : fp.natType = .symmetric) (hpattern : fp.portDeltaPattern = some d) (hd : 1 ≤ d)
    {top : SocketAddr} (hmem : top ∈ fp.publicAddrs)
    (htop : ∀ addr ∈ fp.publicAddrs, addr.port ≤ top.port) :
    ∃ predicted, predictFromFingerprint fp = some predicted ∧
      (predicted.map SocketAddr.portInt).Nodup ∧
      ∀ p : ℤ, p ∈ predicted.map SocketAddr.portInt ↔
        (1 ≤ p ∧ p ≤ 65535) ∧
          ((∃ i : ℕ, (1 ≤ i ∧ i ≤ 8) ∧ p = top.portInt + d * i) ∨
            p ≠ top.portInt ∧ |p - top.portInt| ≤ 8) := by
  obtain ⟨lastAddr, hlast, hport⟩ := highestAddr_eq hmem htop
  refine ⟨neighbourOffsets.foldl (addNeighbour lastAddr.ip top.portInt)
    (predictForward lastAddr.ip top.portInt d), ?_, ?_, ?_⟩
  · simp [predictFromFingerprint, hsymmetric, hlast, hport, hpattern]
  · refine (nodup_predicted lastAddr.ip top.portInt hd).map_on ?_
    -- one address in all of them, so equal ports are equal addresses
    intro x hx y hy hxy
    rw [mem_predicted_iff] at hx hy
    obtain ⟨xip, xport⟩ := x
    obtain ⟨yip, yport⟩ := y
    simp only [SocketAddr.portInt, Nat.cast_inj, UInt16.toNat_inj] at hxy
    rw [SocketAddr.mk.injEq]
    exact ⟨hx.1.trans hy.1.symm, hxy⟩
  · intro p
    rw [List.mem_map]
    constructor
    · rintro ⟨addr, haddr, rfl⟩
      rw [mem_predicted_iff] at haddr
      have hlt := addr.port.toNat_lt
      refine ⟨⟨haddr.2.1, ?_⟩, haddr.2.2⟩
      rw [SocketAddr.portInt]
      omega
    · rintro ⟨⟨hlow, hhigh⟩, hp⟩
      obtain ⟨addr, haddr⟩ : ∃ addr, predictedAddr lastAddr.ip p = some addr :=
        ⟨_, if_pos ⟨by omega, hhigh⟩⟩
      rw [predictedAddr_eq_some_iff] at haddr
      refine ⟨addr, mem_predicted_iff.mpr ⟨haddr.1, ?_, ?_⟩, haddr.2.1⟩
      · rw [haddr.2.1]
        exact hlow
      · rw [haddr.2.1]
        exact hp

/-- **The step and the prediction.**  The step does not depend on the order of the observations and
is found exactly where the ports in ascending order go up by it, from 1 to 16; and where it is
found, the ports that are tried are distinct, exclude the highest one and are the eight steps
above it and its neighbours at a distance of at most 8, as far as there are such ports. -/
theorem port_prediction :
    (∀ publicAddrs publicAddrs' : List SocketAddr, publicAddrs.Perm publicAddrs' →
      inferPortDeltaPattern publicAddrs = inferPortDeltaPattern publicAddrs') ∧
    (∀ (publicAddrs : List SocketAddr) (d : ℤ),
      inferPortDeltaPattern publicAddrs = some d ↔
        2 ≤ publicAddrs.length ∧ 1 ≤ d ∧ d ≤ 16 ∧
          ∃ ports : List ℤ, ports.Perm (publicAddrs.map SocketAddr.portInt) ∧
            ports.Pairwise (· ≤ ·) ∧
            ∃ a, ports = (List.range ports.length).map fun k : ℕ => a + d * k) ∧
    ∀ (fp : NatFingerprint) (d : ℤ), fp.natType = .symmetric → fp.portDeltaPattern = some d →
      1 ≤ d → d ≤ 16 → ∀ top ∈ fp.publicAddrs, (∀ addr ∈ fp.publicAddrs, addr.port ≤ top.port) →
      ∃ predicted, predictFromFingerprint fp = some predicted ∧
        let ports := predicted.map SocketAddr.portInt
        (∀ p ∈ ports, 1 ≤ p ∧ p ≤ 65535) ∧ ports.Nodup ∧ top.portInt ∉ ports ∧
          (∀ p : ℤ, 1 ≤ p → p ≤ 65535 → p ≠ top.portInt → |p - top.portInt| ≤ 8 → p ∈ ports) ∧
          (∀ i : ℕ, 1 ≤ i → i ≤ 8 → top.portInt + d * i ≤ 65535 → top.portInt + d * i ∈ ports) ∧
          ∀ p ∈ ports, (∃ i : ℕ, (1 ≤ i ∧ i ≤ 8) ∧ p = top.portInt + d * i) ∨
            |p - top.portInt| ≤ 8 := by
  refine ⟨fun _ _ => inferPortDeltaPattern_congr, ?_, ?_⟩
  · intro publicAddrs d
    rw [inferPortDeltaPattern_eq_some_iff]
    refine and_congr_right fun _ => and_congr_right fun _ => and_congr_right fun _ => ?_
    have hform : ∀ (a : ℤ) (n : ℕ), Adjacent.progression a d n =
        (List.range n).map fun k : ℕ => a + d * k := by
      intro a n
      simp [Adjacent.progression, mul_comm d]
    constructor
    · rintro ⟨a, ha⟩
      refine ⟨sortedPorts publicAddrs, sortedPorts_perm publicAddrs,
        sortedPorts_pairwise publicAddrs, a, ?_⟩
      rw [length_sortedPorts, ← hform, ha]
    · rintro ⟨ports, hperm, hsorted, a, ha⟩
      refine ⟨a, ?_⟩
      rw [hform, ← eq_sortedPorts hperm hsorted, ← List.length_map SocketAddr.portInt,
        ← hperm.length_eq]
      exact ha
  · intro fp d hsymmetric hpattern hlow _ top hmem htop
    obtain ⟨predicted, hpredicted, hnodup, hiff⟩ :=
      predictFromFingerprint_of_pattern hsymmetric hpattern hlow hmem htop
    have hpos : (0 : ℤ) ≤ top.portInt := by simp [SocketAddr.portInt]
    refine ⟨predicted, hpredicted, fun p hp => ((hiff p).mp hp).1, hnodup, ?_, ?_, ?_, ?_⟩
    · rw [hiff]
      rintro ⟨_, ⟨i, hi, heq⟩ | hne⟩
      · have hstep : 1 * 1 ≤ d * (i : ℤ) := mul_le_mul hlow (by omega) (by omega) (by omega)
        omega
      · exact hne.1 rfl
    · intro p hlow' hhigh' hne hnear
      exact (hiff p).mpr ⟨⟨hlow', hhigh'⟩, Or.inr ⟨hne, hnear⟩⟩
    · intro i hi hi' hle
      have hstep : 1 * 1 ≤ d * (i : ℤ) := mul_le_mul hlow (by omega) (by omega) (by omega)
      exact (hiff _).mpr ⟨⟨by omega, hle⟩, Or.inl ⟨i, ⟨hi, hi'⟩, rfl⟩⟩
    · intro p hp
      exact ((hiff p).mp hp).2.imp id And.right

/-- Two observations three apart, at the end of the range: the higher port is 65530, and the ports
above 65535 are left out. -/
theorem port_prediction_atTheEnd :
    let fp := fingerprint [(.localhost 65530, 20), (.localhost 65527, 10)] 5000
    fp.portDeltaPattern = some 3 ∧
      ∃ predicted, predictFromFingerprint fp = some predicted ∧
        (predicted.map SocketAddr.portInt).Nodup ∧
        65533 ∈ predicted.map SocketAddr.portInt := by
  intro fp
  have hpattern : fp.portDeltaPattern = some 3 := by decide
  obtain ⟨predicted, hpredicted, _, hnodup, _, _, hsteps, _⟩ :=
    port_prediction.2.2 fp 3 (by decide) hpattern (by decide) (by decide) (.localhost 65530)
      (by decide) (by decide)
  exact ⟨hpattern, predicted, hpredicted, hnodup, hsteps 1 (by decide) (by decide) (by decide)⟩

end R2N
