import R2N.Edge.Activation

/-!
# The interface of a room

The device and the routes of an edge over any sequence of activations and deactivations, when every
operation on devices and routes succeeds.  A device is made with prefix length 24 and is kept for
as long as it is in the slot; the routes of a room are added to those there are, and deactivation
removes those of the network recorded last.

* `Entered` — what an activation that succeeds has done.
* `Settled` — every route is one that deactivation would remove.
* **`interface_matches_room_iff`** — when device and routes are those of the room, after every call
  of a run.
-/

namespace R2N

open Run

namespace LocalState

/-! ## Device and routes of a room -/

/-- The routes of a room's network on an interface, with those for discovery traffic. -/
def roomRoutes (C : ActivationConfig) (network : Ipv4Net) (interfaceName : String) : List Route :=
  buildRoute network interfaceName ::
    (C.discovery.routeCidrs.filterMap C.ipnet.parse).map fun route => buildRoute route interfaceName

section Operations

variable {C : ActivationConfig} {io : ActivationIo}

lemma createTunDeviceWithBackend_ok {assignedIp : VirtualIp} {prefixLen : ℕ} {device : Interface}
    {degraded : Bool} {warning : Option String}
    (h : createTunDeviceWithBackend C io assignedIp prefixLen = .ok (device, degraded, warning)) :
    device.ipv4Addr = some assignedIp.octets ∧ device.prefixLen = prefixLen := by
  unfold createTunDeviceWithBackend at h
  split at h
  · cases hnew : io.newWithMode .tun <;> rw [hnew] at h <;> cases h
    exact ⟨rfl, rfl⟩
  · split at h
    · cases h
      exact ⟨rfl, rfl⟩
    · cases hnew : io.newWithMode .tun <;> rw [hnew] at h <;> cases h
      exact ⟨rfl, rfl⟩

lemma createTunDeviceWithBackend_ne_error (hio : io.Succeeds) {assignedIp : VirtualIp}
    {prefixLen : ℕ} {err : String} :
    createTunDeviceWithBackend C io assignedIp prefixLen ≠ .error err := by
  obtain ⟨tun, htun⟩ := hio.newWithMode .tun
  obtain ⟨tap, htap⟩ := hio.newWithMode .tap
  unfold createTunDeviceWithBackend
  rw [htun, htap]
  split <;> nofun

lemma addRoute_eq (hos : C.os ≠ .android) (hio : io.Succeeds) (dest : Ipv4Net)
    (interfaceName : String) (routes : List Route) :
    addRoute C io dest interfaceName routes =
      .ok (routes.insert (buildRoute dest interfaceName)) := by
  rw [addRoute, if_neg hos, hio.addRoute]

lemma removeRoute_eq (hos : C.os ≠ .android) (hio : io.Succeeds) (dest : Ipv4Net)
    (interfaceName : String) (routes : List Route) :
    removeRoute C io dest interfaceName routes =
      routes.filter fun route => route ≠ buildRoute dest interfaceName := by
  rw [removeRoute, if_neg]
  simp [hos, hio.removeRoute]

lemma mem_addLanDiscoveryRoutes (hos : C.os ≠ .android) (hio : io.Succeeds)
    (interfaceName : String) (cidrs : List String) (routes : List Route) (route : Route) :
    route ∈ (addLanDiscoveryRoutes C io interfaceName cidrs routes).2 ↔
      route ∈ routes ∨
        route ∈ (cidrs.filterMap C.ipnet.parse).map fun dest => buildRoute dest interfaceName := by
  induction cidrs generalizing routes with
  | nil => simp [addLanDiscoveryRoutes]
  | cons cidr cidrs ih =>
      cases hparse : C.ipnet.parse cidr with
      | none => simp [addLanDiscoveryRoutes, hparse, ih]
      | some dest =>
          simp only [addLanDiscoveryRoutes, hparse, addRoute_eq hos hio, ih, List.mem_insert_iff,
            List.filterMap_cons, List.map_cons, List.mem_cons]
          tauto

lemma mem_removeLanDiscoveryRoutes (hos : C.os ≠ .android) (hio : io.Succeeds)
    (interfaceName : String) (cidrs : List String) (routes : List Route) (route : Route) :
    route ∈ removeLanDiscoveryRoutes C io interfaceName cidrs routes ↔
      route ∈ routes ∧
        route ∉ (cidrs.filterMap C.ipnet.parse).map fun dest => buildRoute dest interfaceName := by
  induction cidrs generalizing routes with
  | nil => simp [removeLanDiscoveryRoutes]
  | cons cidr cidrs ih =>
      rw [removeLanDiscoveryRoutes, List.foldl_cons, ← removeLanDiscoveryRoutes, ih]
      cases hparse : C.ipnet.parse cidr with
      | none => simp [hparse]
      | some dest =>
          simp only [removeRoute_eq hos hio, List.mem_filter, decide_eq_true_eq, hparse,
            List.filterMap_cons, List.map_cons, List.mem_cons]
          tauto

end Operations

/-- What a successful activation has done: the device comes from the slot or is new, and the routes
of the room are there beside those there were. -/
structure Entered (C : ActivationConfig) (assignedIp : VirtualIp) (virtualCidr : String)
    (network : Ipv4Net) (s s' : LocalState) (device : Interface) : Prop where
  tun : s'.tun = some device
  source : s.tun = some device ∨
    s.tun = none ∧ device.ipv4Addr = some assignedIp.octets ∧ device.prefixLen = 24
  routeCidr : s'.runtime.routeCidr = some virtualCidr
  tunName : s'.runtime.tunName = some device.name
  mem_routes : ∀ route, route ∈ s'.routes ↔
    route ∈ s.routes ∨ route ∈ roomRoutes C network device.name

section Desktop

variable {C : ActivationConfig} {io : ActivationIo} {joinedRoom : RoomId} {assignedIp : VirtualIp}
  {virtualCidr : String} {network : Ipv4Net} {s : LocalState}

lemma mem_installRoutes (hos : C.os ≠ .android) (hio : io.Succeeds) {device : Interface}
    {routes routes' : List Route} {errors : List String}
    (h : installRoutes C io (some device) device.name network routes = .ok (errors, routes'))
    (route : Route) :
    route ∈ routes' ↔ route ∈ routes ∨ route ∈ roomRoutes C network device.name := by
  rw [installRoutes, if_pos (by rfl), addRoute_eq hos hio] at h
  have hroutes : (addLanDiscoveryRoutes C io device.name C.discovery.routeCidrs
      (routes.insert (buildRoute network device.name))).2 = routes' :=
    congrArg Prod.snd (Except.ok.inj h)
  rw [← hroutes, mem_addLanDiscoveryRoutes hos hio, List.mem_insert_iff, roomRoutes, List.mem_cons]
  tauto

/-- With willing devices and routes an activation succeeds unless another room is active or the
network cannot be read. -/
lemma activateRoom_entered (hos : C.os ≠ .android) (hio : io.Succeeds)
    (hroom : ∀ activeRoom ∈ s.roomId, activeRoom = joinedRoom)
    (hparse : C.ipnet.parse virtualCidr = some network) :
    (s.activateRoom C io joinedRoom assignedIp virtualCidr).1 = .ok () ∧
      ∃ device, Entered C assignedIp virtualCidr network s
        (s.activateRoom C io joinedRoom assignedIp virtualCidr).2 device := by
  have hend := activateRoom_activation C io joinedRoom assignedIp virtualCidr s
  generalize s.activateRoom C io joinedRoom assignedIp virtualCidr = outcome at hend ⊢
  cases hend with
  | otherRoom hactive hne => exact absurd (hroom _ hactive) hne
  | noDevice _ _ _ hcreate => exact absurd hcreate (createTunDeviceWithBackend_ne_error hio)
  | noName _ _ hname =>
      rw [hio.name] at hname
      cases hname
  | noNetwork _ _ hnone =>
      rw [hparse] at hnone
      cases hnone
  | noRoute _ _ _ _ hroute =>
      rw [addRoute_eq hos hio] at hroute
      cases hroute
  | activated _ hopen _ hsome hroutes =>
      rw [hparse] at hsome
      cases hsome
      refine ⟨rfl, ?_⟩
      cases hopen with
      | @held device htun =>
          exact ⟨device, htun, .inl htun, rfl, rfl, mem_installRoutes hos hio hroutes⟩
      | awaited _ handroid => exact absurd handroid hos
      | @created device _ _ htun _ hcreate =>
          exact ⟨device, rfl, .inr ⟨htun, createTunDeviceWithBackend_ok hcreate⟩, rfl, rfl,
            mem_installRoutes hos hio hroutes⟩

end Desktop

/-! ## Runs of activations and deactivations -/

/-- A call that changes the local state, with the answers it gets. -/
inductive Call where
  | activate (io : ActivationIo) (joinedRoom : RoomId) (assignedIp : VirtualIp)
      (virtualCidr : String)
  | deactivate (io : ActivationIo)

def Call.io : Call → ActivationIo
  | .activate io _ _ _ => io
  | .deactivate io => io

def step (C : ActivationConfig) (s : LocalState) : Call → LocalState
  | .activate io joinedRoom assignedIp virtualCidr =>
      (s.activateRoom C io joinedRoom assignedIp virtualCidr).2
  | .deactivate io => s.deactivateRoom C io

/-- After a successful activation the device has the assigned address and the prefix length of the
room's network, and the routes are exactly those of the room; after a deactivation there are
none. -/
def InterfaceMatches (C : ActivationConfig) (s : LocalState) : Call → Prop
  | .activate io joinedRoom assignedIp virtualCidr =>
      (s.activateRoom C io joinedRoom assignedIp virtualCidr).1 = .ok () →
        ∀ network ∈ C.ipnet.parse virtualCidr,
          ∃ device ∈ (s.activateRoom C io joinedRoom assignedIp virtualCidr).2.tun,
            device.ipv4Addr = some assignedIp.octets ∧ device.prefixLen = network.prefixLen ∧
              ∀ route, route ∈ (s.activateRoom C io joinedRoom assignedIp virtualCidr).2.routes ↔
                route ∈ roomRoutes C network device.name
  | .deactivate io => (s.deactivateRoom C io).routes = []

/-- The room's network has prefix length 24, and a device that is already there has the address
that is assigned now and no routes but those of this network. -/
def Fits (C : ActivationConfig) (s : LocalState) : Call → Prop
  | .activate _ joinedRoom assignedIp virtualCidr =>
      (∀ activeRoom ∈ s.roomId, activeRoom = joinedRoom) →
        ∀ network ∈ C.ipnet.parse virtualCidr,
          network.prefixLen = 24 ∧
            ∀ device ∈ s.tun, device.ipv4Addr = some assignedIp.octets ∧
              ∀ route ∈ s.routes, route ∈ roomRoutes C network device.name
  | .deactivate _ => True

instance (C : ActivationConfig) (s : LocalState) : ∀ call, Decidable (Fits C s call)
  | .activate .. => by
      unfold Fits
      infer_instance
  | .deactivate _ => isTrue trivial

/-- Devices are made with prefix length 24, and every route is one that deactivation would
remove. -/
structure Settled (C : ActivationConfig) (s : LocalState) : Prop where
  prefixLen : ∀ device ∈ s.tun, device.prefixLen = 24
  routes : s.routes = [] ∨ ∃ device routeCidr network,
    s.tun = some device ∧ s.runtime.tunName = some device.name ∧
      s.runtime.routeCidr = some routeCidr ∧ C.ipnet.parse routeCidr = some network ∧
      ∀ route ∈ s.routes, route ∈ roomRoutes C network device.name

lemma settled_start (C : ActivationConfig) : Settled C (.start C) := ⟨nofun, .inl rfl⟩

section Runs

variable {C : ActivationConfig} {s : LocalState}

lemma Settled.routes_of_no_device (h : Settled C s) (htun : s.tun = none) : s.routes = [] := by
  rcases h.routes with hnil | ⟨device, _, _, hdevice, _⟩
  · exact hnil
  · rw [htun] at hdevice
    cases hdevice

lemma Opening.settled {io : ActivationIo} {assignedIp : VirtualIp} {device : Option Interface}
    {opened : LocalState} (h : Opening C io assignedIp s device opened) (hs : Settled C s) :
    Settled C opened := by
  cases h with
  | held _ => exact hs
  | awaited _ _ => exact hs
  | created htun _ hcreate =>
      refine ⟨fun device hdevice => ?_, .inl (hs.routes_of_no_device htun)⟩
      cases hdevice
      exact (createTunDeviceWithBackend_ok hcreate).2

/-- Deactivation removes the routes of the recorded network from the recorded interface. -/
lemma Settled.deactivateRoom_routes {io : ActivationIo} (h : Settled C s) (hos : C.os ≠ .android)
    (hio : io.Succeeds) : (s.deactivateRoom C io).routes = [] := by
  refine List.eq_nil_iff_forall_not_mem.mpr fun route hroute => ?_
  rw [deactivateRoom] at hroute
  rcases h.routes with hnil | ⟨device, routeCidr, network, -, hname, hcidr, hparse, hroutes⟩
  · simp only [hnil] at hroute
    split at hroute
    · rw [mem_removeLanDiscoveryRoutes hos hio] at hroute
      split at hroute
      · rw [removeRoute_eq hos hio] at hroute
        exact List.not_mem_nil hroute.1
      · exact List.not_mem_nil hroute.1
    · exact List.not_mem_nil hroute
  · simp only [hname, hcidr, hparse, mem_removeLanDiscoveryRoutes hos hio, removeRoute_eq hos hio,
      List.mem_filter, decide_eq_true_eq] at hroute
    rcases List.mem_cons.mp (hroutes route hroute.1.1) with hroom | hdiscovery
    · exact hroute.1.2 hroom
    · exact hroute.2 hdiscovery

/-- The device of an activation has prefix length 24, whether it is new or not. -/
lemma Entered.prefixLen {assignedIp : VirtualIp} {virtualCidr : String} {network : Ipv4Net}
    {s' : LocalState} {device : Interface}
    (h : Entered C assignedIp virtualCidr network s s' device) (hs : Settled C s) :
    device.prefixLen = 24 := by
  rcases h.source with hheld | ⟨-, -, hlen⟩
  · exact hs.prefixLen device hheld
  · exact hlen

/-- An activation that fits puts the room's routes, and no others, on a device with the assigned
address. -/
lemma Entered.of_fits {assignedIp : VirtualIp} {virtualCidr : String} {network : Ipv4Net}
    {s' : LocalState} {device : Interface}
    (h : Entered C assignedIp virtualCidr network s s' device) (hs : Settled C s)
    (hfit : ∀ device ∈ s.tun, device.ipv4Addr = some assignedIp.octets ∧
      ∀ route ∈ s.routes, route ∈ roomRoutes C network device.name) :
    device.ipv4Addr = some assignedIp.octets ∧
      ∀ route, route ∈ s'.routes ↔ route ∈ roomRoutes C network device.name := by
  rcases h.source with hheld | ⟨hnone, haddr, -⟩
  · obtain ⟨haddr, hold⟩ := hfit device hheld
    refine ⟨haddr, fun route => ?_⟩
    rw [h.mem_routes]
    exact or_iff_right_of_imp (hold route)
  · refine ⟨haddr, fun route => ?_⟩
    rw [h.mem_routes, hs.routes_of_no_device hnone]
    exact or_iff_right_of_imp (absurd · List.not_mem_nil)

/-- Calls that fit keep the state settled. -/
lemma Settled.step (hos : C.os ≠ .android) (hs : Settled C s) {call : Call}
    (hio : call.io.Succeeds) (hfits : Fits C s call) : Settled C (s.step C call) := by
  cases call with
  | deactivate io => exact ⟨nofun, .inl (hs.deactivateRoom_routes hos hio)⟩
  | activate io joinedRoom assignedIp virtualCidr =>
      change io.Succeeds at hio
      show Settled C (s.activateRoom C io joinedRoom assignedIp virtualCidr).2
      by_cases hroom : ∀ activeRoom ∈ s.roomId, activeRoom = joinedRoom
      · cases hparse : C.ipnet.parse virtualCidr with
        | some network =>
            obtain ⟨-, device, hentered⟩ := activateRoom_entered hos hio hroom hparse
            refine ⟨fun device' hdevice => ?_, .inr ⟨device, virtualCidr, network, hentered.tun,
              hentered.tunName, hentered.routeCidr, hparse, fun route => ?_⟩⟩
            · rw [hentered.tun] at hdevice
              cases hdevice
              exact hentered.prefixLen hs
            · exact ((hentered.of_fits hs (hfits hroom network hparse).2).2 route).mp
        | none =>
            have hend := activateRoom_activation C io joinedRoom assignedIp virtualCidr s
            generalize s.activateRoom C io joinedRoom assignedIp virtualCidr = outcome at hend ⊢
            cases hend with
            | otherRoom _ _ => exact hs
            | noDevice _ _ _ _ => exact hs
            | noName _ hopen _ => exact hopen.settled hs
            | noNetwork _ hopen _ => exact hopen.settled hs
            | noRoute _ _ _ hsome _ =>
                rw [hparse] at hsome
                cases hsome
            | activated _ _ _ hsome _ =>
                rw [hparse] at hsome
                cases hsome
      · obtain ⟨activeRoom, hother⟩ := activateRoom_of_otherRoom hroom
        rw [hother]
        exact hs

/-- In a settled state the interface matches after a call exactly if the call fits. -/
lemma Settled.matches_iff (hos : C.os ≠ .android) (hs : Settled C s) {call : Call}
    (hio : call.io.Succeeds) : InterfaceMatches C s call ↔ Fits C s call := by
  cases call with
  | deactivate io => exact iff_of_true (hs.deactivateRoom_routes hos hio) trivial
  | activate io joinedRoom assignedIp virtualCidr =>
      change io.Succeeds at hio
      constructor
      · intro hmatch hroom network hparse
        obtain ⟨hok, device, hentered⟩ := activateRoom_entered hos hio hroom hparse
        obtain ⟨device', hdevice, haddr, hlen, hroutes⟩ := hmatch hok network hparse
        rw [hentered.tun] at hdevice
        cases hdevice
        refine ⟨hlen.symm.trans (hentered.prefixLen hs), fun held hheld => ?_⟩
        rcases hentered.source with hsame | ⟨hnone, -⟩
        · rw [hsame] at hheld
          cases hheld
          exact ⟨haddr, fun route hroute =>
            (hroutes route).mp ((hentered.mem_routes route).mpr (.inl hroute))⟩
        · rw [hnone] at hheld
          cases hheld
      · intro hfits hok network hparse
        by_cases hroom : ∀ activeRoom ∈ s.roomId, activeRoom = joinedRoom
        · obtain ⟨hlen, hfit⟩ := hfits hroom network hparse
          obtain ⟨-, device, hentered⟩ := activateRoom_entered hos hio hroom hparse
          obtain ⟨haddr, hroutes⟩ := hentered.of_fits hs hfit
          exact ⟨device, hentered.tun, haddr, (hentered.prefixLen hs).trans hlen.symm, hroutes⟩
        · obtain ⟨activeRoom, hother⟩ := activateRoom_of_otherRoom hroom
          rw [hother] at hok
          cases hok

end Runs

/-- **Device and routes are those of the room** after every call of a run of an edge that starts
without a device, exactly if every activation fits the device that is there. -/
theorem interface_matches_room_iff (C : ActivationConfig) (hos : C.os ≠ .android)
    (calls : List Call) (hio : ∀ call ∈ calls, call.io.Succeeds) :
    Along (step C) (InterfaceMatches C) (.start C) calls ↔
      Along (step C) (Fits C) (.start C) calls :=
  Along.iff_of_invariant (I := Settled C) (R := fun call => call.io.Succeeds)
    (fun _ _ hs hio hfits => hs.step hos hio hfits) (fun _ _ hs hio => hs.matches_iff hos hio)
    calls (.start C) (settled_start C) hio

lemma willing_succeeds : willing.Succeeds :=
  ⟨fun _ => ⟨_, rfl⟩, rfl, fun _ => rfl, fun _ => rfl⟩

/-- Joining a room, a repeated acceptance, leaving it, and joining another one. -/
theorem interface_matches_two_rooms :
    let calls : List Call :=
      [.activate willing (.fill 7) (.ofNat 167772162) "10.0.0.0/24",
        .activate willing (.fill 7) (.ofNat 167772162) "10.0.0.0/24", .deactivate willing,
        .activate willing (.fill 8) (.ofNat 167772418) "10.0.1.0/24"]
    Along (step desktop) (InterfaceMatches desktop) (.start desktop) calls := by
  intro calls
  refine (interface_matches_room_iff desktop (by decide) calls ?_).mpr (by decide +kernel)
  simp [calls, Call.io, willing_succeeds]

/-- **A room is activated again with another address and network**, as after a failover: the device
keeps the first address, and the route to the first network stays, also after the room is left.  **A
room with a network of four addresses**: the device has prefix length 24 and not 30. -/
theorem refreshed_room_keeps_old_interface :
    let first : Call := .activate willing (.fill 7) (.ofNat 167772162) "10.0.0.0/24"
    let again : Call := .activate willing (.fill 7) (.ofNat 167772421) "10.0.1.0/24"
    let small : Call := .activate willing (.fill 7) (.ofNat 167772162) "10.0.0.0/30"
    let old : Route := ⟨167772160, 24, "r2n0"⟩
    (∀ call ∈ [first, again, small, .deactivate willing], call.io.Succeeds) ∧
      (run (step desktop) (.start desktop) [first, again]).tun.map (·.ipv4Addr) =
        some (some (VirtualIp.ofNat 167772162).octets) ∧
      old ∈ (run (step desktop) (.start desktop) [first, again]).routes ∧
      old ∈ (run (step desktop) (.start desktop) [first, again, .deactivate willing]).routes ∧
      (run (step desktop) (.start desktop) [small]).tun.map (·.prefixLen) = some 24 ∧
      ¬ Along (step desktop) (InterfaceMatches desktop) (.start desktop) [first, again] ∧
      ¬ Along (step desktop) (InterfaceMatches desktop) (.start desktop) [small] := by
  intro first again small old
  have haddr : (run (step desktop) (.start desktop) [first, again]).tun.map (·.ipv4Addr) =
      some (some (VirtualIp.ofNat 167772162).octets) := by decide +kernel
  have hlen : (run (step desktop) (.start desktop) [small]).tun.map (·.prefixLen) = some 24 := by
    decide +kernel
  refine ⟨by simp [first, again, small, Call.io, willing_succeeds], haddr, by decide +kernel,
    by decide +kernel, hlen, ?_, ?_⟩
  · rintro ⟨-, hagain, -⟩
    obtain ⟨network, hnetwork⟩ : ∃ network, Ipnet.dotted.parse "10.0.1.0/24" = some network :=
      Option.isSome_iff_exists.mp (by decide +kernel)
    obtain ⟨device, hdevice, hnew, -⟩ := hagain (by decide +kernel) network hnetwork
    have hold := haddr
    rw [show (run (step desktop) (.start desktop) [first, again]).tun = some device from hdevice,
      Option.map_some, hnew] at hold
    exact absurd hold (by decide)
  · rintro ⟨hsmall, -⟩
    obtain ⟨device, hdevice, -, hthirty, -⟩ :=
      hsmall (by decide +kernel) ⟨167772160, 30, by decide, by decide⟩ (by decide +kernel)
    have hold := hlen
    rw [show (run (step desktop) (.start desktop) [small]).tun = some device from hdevice,
      Option.map_some, hthirty] at hold
    exact absurd hold (by decide)

end LocalState

end R2N
