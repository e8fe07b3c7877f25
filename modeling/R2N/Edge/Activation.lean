import R2N.AddressPool
import R2N.Edge.Edge
import R2N.Lib.Run

/-!
# Activating a room on the local machine

`activate_room` and `deactivate_room` of `r2n-edge-lib`, with everything they write: the active
room, the device slot, the dataplane's room, the runtime state and the routes of the machine.
`Edge.activateRoom` is the same function as the rest of the edge sees it; `activateRoom_shows`
and `deactivateRoom_shows` relate the two.

What the operating system answers (whether a device can be created, what it is called, whether a
route can be added) is in `ActivationIo`.  `LocalState.routes` are the routes that the route
manager has added and not removed.

* **`activateRoom_activation`** — the six ways a call can end.
* **`failed_activation_unchanged_iff`** — when a call that fails leaves nothing behind.
-/

namespace R2N

open Run

/-! ## Devices and routes -/

/-- `r2n_config::BackendMode`. -/
inductive BackendMode where
  | tun
  | tap
deriving DecidableEq

/-- `r2n_config::BackendConfig`. -/
structure BackendConfig where
  mode : BackendMode
  desktopL2Enhanced : Bool
deriving DecidableEq

def requestedTunMode (backend : BackendConfig) : TunDeviceMode :=
  if backend.mode = .tap ∨ backend.desktopL2Enhanced then .tap else .tun

def deviceModeLabel : TunDeviceMode → String
  | .tun => "tun"
  | .tap => "tap"

def backendRequestLabel (backend : BackendConfig) : String :=
  deviceModeLabel (requestedTunMode backend)

/-- `MIN_TUN_MTU`. -/
def minTunMtu : UInt16 := 1280

/-- `r2n_tun::normalize_mtu`. -/
def normalizeMtu (mtu : UInt16) : UInt16 := if mtu < minTunMtu then minTunMtu else mtu

/-- `VirtualIp`'s `Display`. -/
def VirtualIp.display (ip : VirtualIp) : String :=
  ".".intercalate (ip.octets.toList.map fun octet => toString octet.toNat)

/-- The targets the source distinguishes. -/
inductive TargetOs where
  | android
  | windows
  | other
deriving DecidableEq

/-- A device with what `activate_room` reads of it and what it was configured with. -/
structure Interface extends TunDevice where
  name : String
  prefixLen : ℕ
  effectiveMtu : UInt16
deriving DecidableEq

/-- A route as `build_route` makes it. -/
structure Route where
  network : ℕ
  prefixLen : ℕ
  interface : String
deriving DecidableEq

def buildRoute (dest : Ipv4Net) (interfaceName : String) : Route where
  network := dest.network
  prefixLen := dest.prefixLen
  interface := interfaceName

/-- The part of the edge's configuration that activation reads. -/
structure ActivationConfig where
  ipnet : Ipnet
  hex : HexCodec
  os : TargetOs
  tunName : String
  tunMtu : UInt16
  backend : BackendConfig
  preferVirtualInterface : Bool
  discovery : DiscoveryConfig

/-- `virtual_interface_preference_supported`. -/
def ActivationConfig.preferenceSupported (C : ActivationConfig) : Bool := C.os = .windows

/-- What the operating system answers during one call: the name of a new device of each mode, the
error of reading a device's name, whether the preference was applied, and the error of adding or
removing a route.  A route that is already there, or no longer there, is not an error. -/
structure ActivationIo where
  newWithMode : TunDeviceMode → Except String String
  nameError : Option String
  prefer : Except String Bool
  addError : Route → Option String
  removeError : Route → Option String

/-- Every operation on devices and routes succeeds. -/
structure ActivationIo.Succeeds (io : ActivationIo) : Prop where
  newWithMode : ∀ mode, ∃ name, io.newWithMode mode = .ok name
  name : io.nameError = none
  addRoute : ∀ route, io.addError route = none
  removeRoute : ∀ route, io.removeError route = none

/-- `create_tun_device_with_backend`: the device, whether it is a fallback, and the warning. -/
def createTunDeviceWithBackend (C : ActivationConfig) (io : ActivationIo) (assignedIp : VirtualIp)
    (prefixLen : ℕ) : Except String (Interface × Bool × Option String) :=
  match requestedTunMode C.backend with
  | .tun => (io.newWithMode .tun).map fun name => (device .tun name, false, none)
  | .tap =>
      match io.newWithMode .tap with
      | .ok name => .ok (device .tap name, false, none)
      | .error err => (io.newWithMode .tun).map fun name =>
          (device .tun name, true, some ("requested TAP/L2 backend is unavailable: " ++ err ++
            "; falling back to TUN"))
where
  /-- `TunDevice::new_with_mode`, once the operating system has made the device. -/
  device (mode : TunDeviceMode) (name : String) : Interface :=
    { mode, ipv4Addr := some assignedIp.octets, name, prefixLen
      effectiveMtu := normalizeMtu C.tunMtu }

/-- `RouteManager::add_route`.  On Android the routes are not the edge's. -/
def addRoute (C : ActivationConfig) (io : ActivationIo) (dest : Ipv4Net) (interfaceName : String)
    (routes : List Route) : Except String (List Route) :=
  if C.os = .android then .ok routes
  else
    match io.addError (buildRoute dest interfaceName) with
    | some err => .error err
    | none => .ok (routes.insert (buildRoute dest interfaceName))

/-- `RouteManager::remove_route`; both callers only log an error. -/
def removeRoute (C : ActivationConfig) (io : ActivationIo) (dest : Ipv4Net) (interfaceName : String)
    (routes : List Route) : List Route :=
  if C.os = .android ∨ io.removeError (buildRoute dest interfaceName) ≠ none then routes
  else routes.filter fun route => route ≠ buildRoute dest interfaceName

/-- The loop of `add_lan_discovery_routes`: the errors, and the routes afterwards. -/
def addLanDiscoveryRoutes (C : ActivationConfig) (io : ActivationIo) (interfaceName : String) :
    List String → List Route → List String × List Route
  | [], routes => ([], routes)
  | cidr :: cidrs, routes =>
      match C.ipnet.parse cidr with
      | none =>
          let (errors, routes) := addLanDiscoveryRoutes C io interfaceName cidrs routes
          (("invalid LAN discovery route CIDR: " ++ cidr) :: errors, routes)
      | some route =>
          match addRoute C io route interfaceName routes with
          | .ok routes => addLanDiscoveryRoutes C io interfaceName cidrs routes
          | .error err =>
              let (errors, routes) := addLanDiscoveryRoutes C io interfaceName cidrs routes
              (("failed to add LAN discovery route " ++ cidr ++ " via " ++ interfaceName ++ ": " ++
                err) :: errors, routes)

/-- The loop of `remove_lan_discovery_routes`. -/
def removeLanDiscoveryRoutes (C : ActivationConfig) (io : ActivationIo) (interfaceName : String)
    (cidrs : List String) (routes : List Route) : List Route :=
  cidrs.foldl (fun routes cidr =>
    match C.ipnet.parse cidr with
    | none => routes
    | some route => removeRoute C io route interfaceName routes) routes

/-! ## The state activation writes -/

/-- `RuntimeState`, as far as activation and deactivation write it. -/
structure RuntimeState where
  tunName : Option String
  virtualIp : Option String
  routeCidr : Option String
  routeInstalled : Bool
  discoveryRoutesInstalled : Bool
  discoveryRouteErrors : List String
  backendRequested : String
  backendActive : String
  backendDegraded : Bool
  effectiveMtu : UInt16
  preferenceRequested : Bool
  preferenceSupported : Bool
  preferenceApplied : Bool
  preferenceError : Option String
  lastError : Option String
deriving DecidableEq

/-- What activation and deactivation write. -/
structure LocalState where
  roomId : Option RoomId
  tun : Option Interface
  dataplaneRoom : Option RoomId
  runtime : RuntimeState
  routes : List Route
deriving DecidableEq

/-- The first lines of `run`, for an edge without a preconfigured device. -/
def RuntimeState.start (C : ActivationConfig) : RuntimeState where
  tunName := none
  virtualIp := none
  routeCidr := none
  routeInstalled := false
  discoveryRoutesInstalled := false
  discoveryRouteErrors := []
  backendRequested := backendRequestLabel C.backend
  backendActive := ""
  backendDegraded := false
  effectiveMtu := C.tunMtu
  preferenceRequested := C.preferVirtualInterface
  preferenceSupported := C.preferenceSupported
  preferenceApplied := false
  preferenceError := none
  lastError := none

def LocalState.start (C : ActivationConfig) : LocalState where
  roomId := none
  tun := none
  dataplaneRoom := none
  runtime := .start C
  routes := []

namespace RuntimeState

/-- What is written as soon as a device has been created. -/
def deviceCreated (device : Interface) (degraded : Bool) (warning : Option String)
    (runtime : RuntimeState) : RuntimeState :=
  { runtime with
    backendActive := deviceModeLabel device.mode
    backendDegraded := degraded
    effectiveMtu := device.effectiveMtu
    lastError := warning }

/-- The last lines of `activate_room`. -/
def activated (C : ActivationConfig) (device : Option Interface) (interfaceName : String)
    (assignedIp : VirtualIp) (virtualCidr : String) (preferenceApplied : Bool)
    (preferenceError : Option String) (discoveryRouteErrors : List String)
    (runtime : RuntimeState) : RuntimeState where
  tunName := some interfaceName
  virtualIp := some assignedIp.display
  routeCidr := some virtualCidr
  routeInstalled := true
  discoveryRoutesInstalled := discoveryRouteErrors.isEmpty
  discoveryRouteErrors := discoveryRouteErrors
  backendRequested := backendRequestLabel C.backend
  backendActive := deviceModeLabel ((device.map (·.mode)).getD .tun)
  backendDegraded := runtime.backendDegraded
  effectiveMtu := (device.map (·.effectiveMtu)).getD C.tunMtu
  preferenceRequested := C.preferVirtualInterface
  preferenceSupported := C.preferenceSupported
  preferenceApplied := preferenceApplied
  preferenceError := preferenceError
  lastError :=
    if runtime.backendDegraded then
      some (runtime.lastError.getD "requested TAP/L2 backend degraded to TUN")
    else if preferenceError.isSome then preferenceError
    else if discoveryRouteErrors.isEmpty then none
    else runtime.lastError

/-- The last lines of `deactivate_room`. -/
def deactivated (runtime : RuntimeState) : RuntimeState :=
  { runtime with
    tunName := none
    virtualIp := none
    routeCidr := none
    routeInstalled := false
    discoveryRoutesInstalled := false
    discoveryRouteErrors := []
    preferenceApplied := false
    preferenceError := none
    lastError := none }

end RuntimeState

namespace LocalState

/-- The state with a device that the call has created. -/
def withDevice (s : LocalState) (device : Interface) (degraded : Bool) (warning : Option String) :
    LocalState :=
  { s with
    tun := some device
    runtime := s.runtime.deviceCreated device degraded warning }

/-- The device in the slot, or a new one, which is put into the slot at once.  On Android the slot
may stay empty. -/
def openDevice (C : ActivationConfig) (io : ActivationIo) (assignedIp : VirtualIp)
    (s : LocalState) : Except String (Option Interface × LocalState) :=
  match s.tun with
  | some device => .ok (some device, s)
  | none =>
      if C.os = .android then .ok (none, s)
      else
        match createTunDeviceWithBackend C io assignedIp 24 with
        | .error err => .error err
        | .ok (device, degraded, warning) =>
            .ok (some device, s.withDevice device degraded warning)

/-- Whether the interface was preferred, and the error. -/
def preferInterface (C : ActivationConfig) (io : ActivationIo) (device : Option Interface)
    (interfaceName : String) : Bool × Option String :=
  if C.preferVirtualInterface ∧ C.preferenceSupported ∧ device.isSome then
    match io.prefer with
    | .ok applied => (applied, none)
    | .error err =>
        (false, some ("failed to prefer virtual LAN interface " ++ interfaceName ++ ": " ++ err))
  else (false, none)

/-- The route of the room and those for discovery traffic, if there is a device: the errors of the
latter, and the routes afterwards. -/
def installRoutes (C : ActivationConfig) (io : ActivationIo) (device : Option Interface)
    (interfaceName : String) (network : Ipv4Net) (routes : List Route) :
    Except String (List String × List Route) :=
  if device.isSome then
    (addRoute C io network interfaceName routes).map
      (addLanDiscoveryRoutes C io interfaceName C.discovery.routeCidrs)
  else .ok ([], routes)

/-- The message of a call for another room than the active one. -/
def alreadyInRoom (C : ActivationConfig) (activeRoom : RoomId) : String :=
  "already in room " ++ C.hex.encode activeRoom.bytes.toList ++
    ", leave it before joining or creating another room"

def activateRoom (C : ActivationConfig) (io : ActivationIo) (joinedRoom : RoomId)
    (assignedIp : VirtualIp) (virtualCidr : String) (s : LocalState) :
    Except String Unit × LocalState :=
  match s.roomId.filter fun activeRoom => activeRoom ≠ joinedRoom with
  | some activeRoom => (.error (alreadyInRoom C activeRoom), s)
  | none =>
  match s.openDevice C io assignedIp with
  | .error err => (.error err, s)
  | .ok (device, opened) =>
  match device.bind fun _ => io.nameError with
  | some err => (.error err, opened)
  | none =>
  let interfaceName := (device.map (·.name)).getD C.tunName
  let (preferenceApplied, preferenceError) := preferInterface C io device interfaceName
  match C.ipnet.parse virtualCidr with
  | none => (.error "invalid IP address syntax", opened)
  | some network =>
  match installRoutes C io device interfaceName network opened.routes with
  -- the device goes again if this call has made it; what was written for it stays
  | .error err => (.error err, if s.tun.isNone then { opened with tun := none } else opened)
  | .ok (discoveryRouteErrors, routes) =>
      (.ok (), {
        roomId := some joinedRoom
        tun := opened.tun
        dataplaneRoom := some joinedRoom
        runtime := opened.runtime.activated C device interfaceName assignedIp virtualCidr
          preferenceApplied preferenceError discoveryRouteErrors
        routes })

def deactivateRoom (C : ActivationConfig) (io : ActivationIo) (s : LocalState) : LocalState where
  roomId := none
  tun := none
  dataplaneRoom := none
  runtime := s.runtime.deactivated
  routes :=
    match s.runtime.routeCidr, s.runtime.tunName with
    | some routeCidr, some tunName =>
        removeLanDiscoveryRoutes C io tunName C.discovery.routeCidrs
          (match C.ipnet.parse routeCidr with
          | some network => removeRoute C io network tunName s.routes
          | none => s.routes)
    | _, _ => s.routes

/-! ## The ways an activation can end -/

section Activation

variable {C : ActivationConfig} {io : ActivationIo} {joinedRoom : RoomId} {assignedIp : VirtualIp}
  {virtualCidr : String} {s : LocalState}

/-- Where the device of a call comes from. -/
inductive Opening (C : ActivationConfig) (io : ActivationIo) (assignedIp : VirtualIp)
    (s : LocalState) : Option Interface → LocalState → Prop where
  | held {device : Interface} (htun : s.tun = some device) :
      Opening C io assignedIp s (some device) s
  | awaited (htun : s.tun = none) (hos : C.os = .android) : Opening C io assignedIp s none s
  | created {device : Interface} {degraded : Bool} {warning : Option String}
      (htun : s.tun = none) (hos : C.os ≠ .android)
      (hcreate : createTunDeviceWithBackend C io assignedIp 24 = .ok (device, degraded, warning)) :
      Opening C io assignedIp s (some device) (s.withDevice device degraded warning)

lemma openDevice_ok {device : Option Interface} {opened : LocalState}
    (h : s.openDevice C io assignedIp = .ok (device, opened)) :
    Opening C io assignedIp s device opened := by
  unfold openDevice at h
  split at h
  next held htun =>
    cases h
    exact .held htun
  next htun =>
    split at h
    next hos =>
      cases h
      exact .awaited htun hos
    next hos =>
      split at h
      · cases h
      next new degraded warning hcreate =>
        cases h
        exact .created htun hos hcreate

lemma openDevice_error {err : String} (h : s.openDevice C io assignedIp = .error err) :
    s.tun = none ∧ C.os ≠ .android ∧
      createTunDeviceWithBackend C io assignedIp 24 = .error err := by
  unfold openDevice at h
  split at h
  · cases h
  next htun =>
    split at h
    · cases h
    next hos =>
      split at h
      next hcreate =>
        cases h
        exact ⟨htun, hos, hcreate⟩
      · cases h

lemma Opening.routes {device : Option Interface} {opened : LocalState}
    (h : Opening C io assignedIp s device opened) : opened.routes = s.routes := by
  cases h <;> rfl

/-- How a call of `activate_room` ends, and the state it leaves. -/
inductive Activation (C : ActivationConfig) (io : ActivationIo) (joinedRoom : RoomId)
    (assignedIp : VirtualIp) (virtualCidr : String) (s : LocalState) :
    Except String Unit × LocalState → Prop where
  | otherRoom {activeRoom : RoomId} (hroom : s.roomId = some activeRoom)
      (hne : activeRoom ≠ joinedRoom) :
      Activation C io joinedRoom assignedIp virtualCidr s (.error (alreadyInRoom C activeRoom), s)
  | noDevice {err : String} (hroom : ∀ activeRoom ∈ s.roomId, activeRoom = joinedRoom)
      (htun : s.tun = none) (hos : C.os ≠ .android)
      (hcreate : createTunDeviceWithBackend C io assignedIp 24 = .error err) :
      Activation C io joinedRoom assignedIp virtualCidr s (.error err, s)
  | noName {device : Interface} {opened : LocalState} {err : String}
      (hroom : ∀ activeRoom ∈ s.roomId, activeRoom = joinedRoom)
      (hopen : Opening C io assignedIp s (some device) opened) (hname : io.nameError = some err) :
      Activation C io joinedRoom assignedIp virtualCidr s (.error err, opened)
  | noNetwork {device : Option Interface} {opened : LocalState}
      (hroom : ∀ activeRoom ∈ s.roomId, activeRoom = joinedRoom)
      (hopen : Opening C io assignedIp s device opened)
      (hparse : C.ipnet.parse virtualCidr = none) :
      Activation C io joinedRoom assignedIp virtualCidr s
        (.error "invalid IP address syntax", opened)
  | noRoute {device : Interface} {opened : LocalState} {network : Ipv4Net} {err : String}
      (hroom : ∀ activeRoom ∈ s.roomId, activeRoom = joinedRoom)
      (hopen : Opening C io assignedIp s (some device) opened) (hname : io.nameError = none)
      (hparse : C.ipnet.parse virtualCidr = some network)
      (hroute : addRoute C io network device.name s.routes = .error err) :
      Activation C io joinedRoom assignedIp virtualCidr s
        (.error err, if s.tun.isNone then { opened with tun := none } else opened)
  | activated {device : Option Interface} {opened : LocalState} {network : Ipv4Net}
      {errors : List String} {routes : List Route} {applied : Bool} {error : Option String}
      (hroom : ∀ activeRoom ∈ s.roomId, activeRoom = joinedRoom)
      (hopen : Opening C io assignedIp s device opened)
      (hname : device.bind (fun _ => io.nameError) = none)
      (hparse : C.ipnet.parse virtualCidr = some network)
      (hroutes : installRoutes C io device ((device.map (·.name)).getD C.tunName) network s.routes =
        .ok (errors, routes)) :
      Activation C io joinedRoom assignedIp virtualCidr s (.ok (), {
        roomId := some joinedRoom
        tun := opened.tun
        dataplaneRoom := some joinedRoom
        runtime := opened.runtime.activated C device ((device.map (·.name)).getD C.tunName)
          assignedIp virtualCidr applied error errors
        routes })

lemma installRoutes_error {device : Option Interface} {interfaceName : String} {network : Ipv4Net}
    {routes : List Route} {err : String}
    (h : installRoutes C io device interfaceName network routes = .error err) :
    device.isSome ∧ addRoute C io network interfaceName routes = .error err := by
  unfold installRoutes at h
  split at h
  next hdevice =>
    refine ⟨hdevice, ?_⟩
    cases hadd : addRoute C io network interfaceName routes with
    | error err' =>
        rw [hadd] at h
        cases h
        rfl
    | ok added =>
        rw [hadd] at h
        cases h
  · cases h

lemma installRoutes_ok {device : Interface} {interfaceName : String} {network : Ipv4Net}
    {routes : List Route} {result : List String × List Route}
    (h : installRoutes C io (some device) interfaceName network routes = .ok result) :
    (addRoute C io network interfaceName routes).isOk = true := by
  rw [installRoutes, if_pos (by rfl)] at h
  cases hadd : addRoute C io network interfaceName routes with
  | error err =>
      rw [hadd] at h
      cases h
  | ok added => rfl

/-- **The ways an activation can end.** -/
theorem activateRoom_activation (C : ActivationConfig) (io : ActivationIo) (joinedRoom : RoomId)
    (assignedIp : VirtualIp) (virtualCidr : String) (s : LocalState) :
    Activation C io joinedRoom assignedIp virtualCidr s
      (s.activateRoom C io joinedRoom assignedIp virtualCidr) := by
  unfold activateRoom
  split
  next activeRoom hother =>
    rw [Option.filter_eq_some_iff] at hother
    exact .otherRoom hother.1 (by simpa using hother.2)
  next hsame =>
    have hroom : ∀ activeRoom ∈ s.roomId, activeRoom = joinedRoom := by
      simpa [Option.filter_eq_none_iff] using hsame
    split
    next err hopen =>
      obtain ⟨htun, hos, hcreate⟩ := openDevice_error hopen
      exact .noDevice hroom htun hos hcreate
    next device opened hopen =>
      have hopen := openDevice_ok hopen
      split
      next err hname =>
        obtain ⟨held, rfl, hname⟩ := Option.bind_eq_some_iff.mp hname
        exact .noName hroom hopen hname
      next hname =>
        dsimp only
        split
        next hparse => exact .noNetwork hroom hopen hparse
        next network hparse =>
          split
          next err hroutes =>
            rw [hopen.routes] at hroutes
            obtain ⟨hdevice, hadd⟩ := installRoutes_error hroutes
            obtain ⟨held, rfl⟩ := Option.isSome_iff_exists.mp hdevice
            exact .noRoute hroom hopen hname hparse hadd
          next errors routes hroutes =>
            rw [hopen.routes] at hroutes
            exact .activated hroom hopen hname hparse hroutes

lemma activateRoom_of_otherRoom
    (h : ¬ ∀ activeRoom ∈ s.roomId, activeRoom = joinedRoom) :
    ∃ activeRoom, s.activateRoom C io joinedRoom assignedIp virtualCidr =
      (.error (alreadyInRoom C activeRoom), s) := by
  have hend := activateRoom_activation C io joinedRoom assignedIp virtualCidr s
  generalize s.activateRoom C io joinedRoom assignedIp virtualCidr = outcome at hend ⊢
  cases hend with
  | @otherRoom activeRoom _ _ => exact ⟨activeRoom, rfl⟩
  | noDevice hroom | noName hroom | noNetwork hroom | noRoute hroom | activated hroom =>
      exact absurd hroom h

end Activation

/-! ## Activations that fail -/

/-- Two states with the same active room, device slot, dataplane room and runtime state. -/
def Unchanged (s s' : LocalState) : Prop :=
  s'.roomId = s.roomId ∧ s'.tun = s.tun ∧ s'.dataplaneRoom = s.dataplaneRoom ∧
    s'.runtime = s.runtime

instance (s s' : LocalState) : Decidable (Unchanged s s') := by
  unfold Unchanged
  infer_instance

/-- Another room is active, no device has to be created, or none can be; or the device can be named,
the network can be read, and the runtime state already shows what creating the device writes. -/
def LeavesNothing (C : ActivationConfig) (io : ActivationIo) (joinedRoom : RoomId)
    (assignedIp : VirtualIp) (virtualCidr : String) (s : LocalState) : Prop :=
  (∃ activeRoom ∈ s.roomId, activeRoom ≠ joinedRoom) ∨ s.tun.isSome ∨ C.os = .android ∨
    ∀ device degraded warning,
      createTunDeviceWithBackend C io assignedIp 24 = .ok (device, degraded, warning) →
        io.nameError = none ∧ (C.ipnet.parse virtualCidr).isSome ∧
          s.runtime.deviceCreated device degraded warning = s.runtime

lemma Unchanged.refl (s : LocalState) : Unchanged s s := ⟨rfl, rfl, rfl, rfl⟩

/-- A device that is created and stays shows in the slot. -/
lemma not_unchanged_withDevice {s : LocalState} {device : Interface} {degraded : Bool}
    {warning : Option String} (htun : s.tun = none) :
    ¬ Unchanged s (s.withDevice device degraded warning) := by
  rintro ⟨-, h, -⟩
  rw [htun] at h
  cases h

/-- What is left of the condition when a device is created. -/
lemma leavesNothing_of_created {C : ActivationConfig} {io : ActivationIo} {joinedRoom : RoomId}
    {assignedIp : VirtualIp} {virtualCidr : String} {s : LocalState} {device : Interface}
    {degraded : Bool} {warning : Option String}
    (hroom : ∀ activeRoom ∈ s.roomId, activeRoom = joinedRoom) (htun : s.tun = none)
    (hos : C.os ≠ .android)
    (hcreate : createTunDeviceWithBackend C io assignedIp 24 = .ok (device, degraded, warning)) :
    LeavesNothing C io joinedRoom assignedIp virtualCidr s ↔
      io.nameError = none ∧ (C.ipnet.parse virtualCidr).isSome ∧
        s.runtime.deviceCreated device degraded warning = s.runtime := by
  constructor
  · rintro (⟨activeRoom, hactive, hne⟩ | hheld | handroid | h)
    · exact absurd (hroom activeRoom hactive) hne
    · rw [htun] at hheld
      cases hheld
    · exact absurd handroid hos
    · exact h device degraded warning hcreate
  · rintro h
    refine .inr (.inr (.inr fun device' degraded' warning' hcreate' => ?_))
    rw [hcreate] at hcreate'
    cases hcreate'
    exact h

/-- **A failed activation leaves nothing behind** exactly if it created no device, or dropped the
device again and the runtime state showed the same backend before. -/
theorem failed_activation_unchanged_iff (C : ActivationConfig) (io : ActivationIo)
    (joinedRoom : RoomId) (assignedIp : VirtualIp) (virtualCidr : String) (s : LocalState)
    (hfail : ∃ err, (s.activateRoom C io joinedRoom assignedIp virtualCidr).1 = .error err) :
    Unchanged s (s.activateRoom C io joinedRoom assignedIp virtualCidr).2 ↔
      LeavesNothing C io joinedRoom assignedIp virtualCidr s := by
  have hend := activateRoom_activation C io joinedRoom assignedIp virtualCidr s
  generalize s.activateRoom C io joinedRoom assignedIp virtualCidr = outcome at hend hfail ⊢
  cases hend with
  | otherRoom hroom hne => exact iff_of_true (.refl s) (.inl ⟨_, hroom, hne⟩)
  | noDevice hroom htun hos hcreate =>
      refine iff_of_true (.refl s) (.inr (.inr (.inr fun device degraded warning hok => ?_)))
      rw [hcreate] at hok
      cases hok
  | noName hroom hopen hname =>
      cases hopen with
      | held htun => exact iff_of_true (.refl s) (.inr (.inl (htun ▸ rfl)))
      | created htun hos hcreate =>
          rw [leavesNothing_of_created hroom htun hos hcreate, hname]
          exact iff_of_false (not_unchanged_withDevice htun) nofun
  | noNetwork hroom hopen hparse =>
      cases hopen with
      | held htun => exact iff_of_true (.refl s) (.inr (.inl (htun ▸ rfl)))
      | awaited htun hos => exact iff_of_true (.refl s) (.inr (.inr (.inl hos)))
      | created htun hos hcreate =>
          rw [leavesNothing_of_created hroom htun hos hcreate, hparse]
          exact iff_of_false (not_unchanged_withDevice htun) nofun
  | noRoute hroom hopen hname hparse hroute =>
      cases hopen with
      | held htun =>
          rw [htun]
          exact iff_of_true (.refl s) (.inr (.inl (htun ▸ rfl)))
      | created htun hos hcreate =>
          -- the slot is empty again: only the runtime state can differ
          rw [leavesNothing_of_created hroom htun hos hcreate, hname, hparse, htun]
          exact ⟨fun h => ⟨rfl, rfl, h.2.2.2⟩, fun h => ⟨rfl, htun.symm, rfl, h.2.2⟩⟩
  | activated _ _ _ _ _ =>
      obtain ⟨err, herr⟩ := hfail
      cases herr

/-- A desktop with a TUN backend. -/
def desktop : ActivationConfig where
  ipnet := .dotted
  hex := .lower
  os := .other
  tunName := "r2n0"
  tunMtu := 1400
  backend := { mode := .tun, desktopL2Enhanced := false }
  preferVirtualInterface := false
  discovery := .default

/-- Everything the operating system is asked for succeeds. -/
def willing : ActivationIo where
  newWithMode := fun _ => .ok "r2n0"
  nameError := none
  prefer := .ok false
  addError := fun _ => none
  removeError := fun _ => none

/-- A call for another room than the active one fails and changes nothing. -/
theorem second_room_refused :
    let s := (LocalState.start desktop).activateRoom desktop willing (.fill 7) (.ofNat 167772162)
      "10.0.0.0/24" |>.2
    Unchanged s
      (s.activateRoom desktop willing (.fill 8) (.ofNat 167772418) "10.0.1.0/24").2 := by
  intro s
  have hroom : s.roomId = some (.fill 7) := by decide +kernel
  have hother : RoomId.fill 7 ≠ .fill 8 := by decide
  refine (failed_activation_unchanged_iff desktop willing _ _ _ s
    ⟨alreadyInRoom desktop (.fill 7), ?_⟩).mpr (.inl ⟨_, hroom, hother⟩)
  decide +kernel

/-- **The first room of an edge, with a network that cannot be read**: the call fails, and the
device it has created stays in the slot. -/
theorem failed_activation_keeps_device :
    let outcome := (LocalState.start desktop).activateRoom desktop willing (.fill 7)
      (.ofNat 167772162) "10.0.0.0"
    outcome.1 = .error "invalid IP address syntax" ∧
      ¬ Unchanged (.start desktop) outcome.2 ∧
      outcome.2.tun.map (·.ipv4Addr) = some (some (VirtualIp.ofNat 167772162).octets) := by
  decide +kernel

/-! ## The edge's view -/

/-- The edge has the room, the device and the dataplane room of the local state. -/
def Shows (s : LocalState) (e : Edge) : Prop :=
  e.roomId = s.roomId ∧ e.dataplane.tun = s.tun.map (·.toTunDevice) ∧
    e.dataplane.roomId = s.dataplaneRoom

/-- The answers of the operating system, as `Edge.activateRoom` reads them. -/
def edgeIo (C : ActivationConfig) (io : ActivationIo) (assignedIp : VirtualIp)
    (virtualCidr : String) (s : LocalState) (rest : EdgeIo) : EdgeIo :=
  { rest with
    createTun := (createTunDeviceWithBackend C io assignedIp 24).toOption.map (·.1.toTunDevice)
    nameOk := io.nameError.isNone
    cidrOk := (C.ipnet.parse virtualCidr).isSome
    routeOk :=
      match s.openDevice C io assignedIp, C.ipnet.parse virtualCidr with
      | .ok (some device, _), some network => (addRoute C io network device.name s.routes).isOk
      | _, _ => true }

lemma Opening.openDevice_eq {C : ActivationConfig} {io : ActivationIo} {assignedIp : VirtualIp}
    {s opened : LocalState} {device : Option Interface}
    (h : Opening C io assignedIp s device opened) :
    s.openDevice C io assignedIp = .ok (device, opened) := by
  unfold openDevice
  cases h with
  | held htun => rw [htun]
  | awaited htun hos => rw [htun, if_pos hos]
  | created htun hos hcreate => rw [htun, if_neg hos, hcreate]

lemma Opening.device_of_desktop {C : ActivationConfig} {io : ActivationIo}
    {assignedIp : VirtualIp} {s opened : LocalState} {device : Option Interface}
    (h : Opening C io assignedIp s device opened) (hos : C.os ≠ .android) :
    ∃ held, device = some held := by
  cases h with
  | held _ => exact ⟨_, rfl⟩
  | awaited _ handroid => exact absurd handroid hos
  | created _ _ _ => exact ⟨_, rfl⟩

/-- The edge finds the device of the call, and its slot shows the state that has it. -/
lemma Opening.shows {C : ActivationConfig} {io : ActivationIo} {assignedIp : VirtualIp}
    {s opened : LocalState} {device : Interface} {e : Edge}
    (h : Opening C io assignedIp s (some device) opened) (he : s.Shows e) (virtualCidr : String)
    (rest : EdgeIo) :
    e.dataplane.tun.or (s.edgeIo C io assignedIp virtualCidr rest).createTun =
        some device.toTunDevice ∧ opened.tun = some device ∧
      opened.Shows { e with dataplane := { e.dataplane with tun := some device.toTunDevice } } := by
  obtain ⟨hroom, htun', hplane⟩ := he
  cases h with
  | held htun =>
      rw [htun', htun]
      exact ⟨rfl, rfl, hroom, by rw [htun]; rfl, hplane⟩
  | created htun hos hcreate =>
      rw [htun', htun, edgeIo, hcreate]
      exact ⟨rfl, rfl, hroom, rfl, hplane⟩

/-- **`Edge.activateRoom` is `activate_room` without routes and runtime state**, on a desktop. -/
theorem activateRoom_shows {C : ActivationConfig} (hos : C.os ≠ .android) (io : ActivationIo)
    (joinedRoom : RoomId) (assignedIp : VirtualIp) (virtualCidr : String) (rest : EdgeIo)
    {s : LocalState} {e : Edge} (he : s.Shows e) :
    (e.activateRoom joinedRoom (s.edgeIo C io assignedIp virtualCidr rest)).1 =
        (s.activateRoom C io joinedRoom assignedIp virtualCidr).1.isOk ∧
      (s.activateRoom C io joinedRoom assignedIp virtualCidr).2.Shows
        (e.activateRoom joinedRoom (s.edgeIo C io assignedIp virtualCidr rest)).2 := by
  have hend := activateRoom_activation C io joinedRoom assignedIp virtualCidr s
  generalize s.activateRoom C io joinedRoom assignedIp virtualCidr = outcome at hend ⊢
  have hsame (hroom : ∀ activeRoom ∈ s.roomId, activeRoom = joinedRoom) :
      (e.roomId.any fun active => active ≠ joinedRoom) = false := by
    rw [he.1]
    cases hactive : s.roomId with
    | none => rfl
    | some active => simp [hroom active hactive]
  unfold Edge.activateRoom
  cases hend with
  | @otherRoom activeRoom hroom hne =>
      rw [he.1, hroom, if_pos (by simpa using hne)]
      exact ⟨rfl, he⟩
  | noDevice hroom htun _ hcreate =>
      rw [hsame hroom, he.2.1, htun, edgeIo, hcreate]
      exact ⟨rfl, he⟩
  | noName hroom hopen hname =>
      obtain ⟨hdevice, -, hshows⟩ := hopen.shows he virtualCidr rest
      rw [hsame hroom, hdevice]
      simp only [edgeIo, hname]
      exact ⟨rfl, hshows⟩
  | @noNetwork device _ hroom hopen hparse =>
      obtain ⟨device, rfl⟩ := hopen.device_of_desktop hos
      obtain ⟨hdevice, -, hshows⟩ := hopen.shows he virtualCidr rest
      rw [hsame hroom, hdevice]
      simp only [edgeIo, hparse, Option.isSome_none, Bool.not_false, Bool.or_true]
      exact ⟨rfl, hshows⟩
  | noRoute hroom hopen hname hparse hroute =>
      obtain ⟨hdevice, hheld, hshows⟩ := hopen.shows he virtualCidr rest
      rw [hsame hroom, hdevice]
      simp only [edgeIo, hname, hparse, hopen.openDevice_eq, hroute]
      refine ⟨rfl, ?_⟩
      cases hopen with
      | held htun =>
          rw [he.2.1, htun]
          exact hshows
      | created htun _ _ =>
          have hempty : e.dataplane.tun = none := by rw [he.2.1, htun, Option.map_none]
          rw [hempty, htun]
          exact ⟨he.1, hempty, he.2.2⟩
  | @activated _ opened _ _ _ _ _ hroom hopen hname hparse hroutes =>
      obtain ⟨device, rfl⟩ := hopen.device_of_desktop hos
      obtain ⟨hdevice, hheld, -⟩ := hopen.shows he virtualCidr rest
      rw [hsame hroom, hdevice]
      have hname : io.nameError = none := hname
      have hadd : (addRoute C io _ device.name s.routes).isOk = true := installRoutes_ok hroutes
      simp only [edgeIo, hname, hparse, hopen.openDevice_eq, hadd]
      refine ⟨rfl, rfl, ?_, rfl⟩
      show some device.toTunDevice = opened.tun.map (·.toTunDevice)
      rw [hheld]
      rfl

/-- `Edge.finishLeave` is `deactivate_room` without routes and runtime state. -/
theorem deactivateRoom_shows (C : ActivationConfig) (io : ActivationIo) (s : LocalState)
    (e : Edge) : (s.deactivateRoom C io).Shows e.finishLeave := ⟨rfl, rfl, rfl⟩

end LocalState

end R2N
