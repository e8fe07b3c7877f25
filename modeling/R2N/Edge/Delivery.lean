import R2N.Dataplane.Pipeline
import R2N.Edge.ClearText
import R2N.Edge.Nonces
import R2N.Edge.Replays

/-!
# Delivery between edges

The two ends of a handshake share one key for both directions, and a frame travels over relays
that may hold it back, repeat it, change it, or send it back to where it came from.  The edges of a
fleet are followed together with the frames they have encrypted.  What is assumed of the cipher is
that it cannot be forged: a payload that opens under a key, with its header as associated data, was
encrypted under this key with this header.

* `SealedFrame` — a frame that was encrypted: by whom, under which key, and from what.
* `SealedFrame.Genuine` — the frame carries its content under a header that names its author.
* `Edge.sealsBy_genuine` — everything an edge encrypts, pongs included, is genuine.
* `Unforgeable` — the assumption, and `exists_acceptedAs`, what it gives for one frame.
* **`Network.sealed_frames_authentic`** — whatever is accepted under the key of a record, in any
  interleaving of the edges, is what the node that the header names has encrypted before, under the
  same header; a frame that is sent back to its author is never accepted.
-/

namespace R2N

open Run

/-- A frame that was encrypted: the node, the key, the type, the content and the bytes on the
wire. -/
structure SealedFrame where
  node : NodeId
  key : Key
  packetType : DataPacketType
  content : Bytes
  frame : Bytes
deriving DecidableEq

/-- The frame is a header of the current version that names its author and its type, and the content
encrypted with that header as associated data. -/
def SealedFrame.Genuine (A : Aead) (f : SealedFrame) : Prop :=
  ∃ (h : DataHeader) (body : Bytes), h.version = protocolVersion ∧ h.srcNode = f.node ∧
    h.originNode = f.node ∧ h.packetType = f.packetType ∧ SealedUnder A f.key h f.content body ∧
    f.frame = h.wire ++ body

/-- The frame of a call, if it was encrypted. -/
def SealedFrame.ofCall (node : NodeId) (packetType : DataPacketType) (content : Bytes)
    (encrypted : Option (Key × UInt64)) (frame : Option (Bytes × SocketAddr)) :
    Option SealedFrame :=
  encrypted.bind fun enc => frame.map fun sent => ⟨node, enc.1, packetType, content, sent.1⟩

namespace DataPlane

/-- A call of `send_to_peer` that encrypts sends a genuine frame of the local node. -/
lemma sendToPeer_genuine {A : Aead} (hA : A.Correct) (E : Etherparse) (dp : DataPlane)
    (r : PeerRef) (packetType : DataPacketType) (payload : Bytes) (target : Option SocketAddr)
    (flood : Bool) (net : NetAnswer) {f : SealedFrame}
    (hf : let out := dp.sendToPeer A E r packetType payload target flood net
      SealedFrame.ofCall dp.localNodeId packetType payload out.encrypted out.frame = some f) :
    f.Genuine A := by
  rcases dp.sendToPeer_effect A E r packetType payload target flood net with
    ⟨-, -, henc, -⟩ | ⟨hsend, -, henc, -⟩
  · simp [SealedFrame.ofCall, henc] at hf
  · obtain ⟨room, hroom⟩ := Option.isSome_iff_exists.mp hsend.2.1
    have hwire := dp.sendToPeer_frame A E r packetType payload target flood net hA hroom hsend
    cases hc : (dp.heap r).cipher with
    | none => simp [SealedFrame.ofCall, henc, hc] at hf
    | some c =>
        simp only [hc] at hwire
        obtain ⟨body, hsealed, hsent⟩ := hwire
        simp only [SealedFrame.ofCall, henc, hc, hsent, Option.map_some, Option.bind_some] at hf
        obtain rfl := Option.some.inj hf
        exact ⟨_, body, rfl, rfl, rfl, rfl, hsealed, rfl⟩

/-- What a data frame makes the plane encrypt is the pong, with the content of the ping. -/
lemma handleIncomingFrame_answer (A : Aead) (E : Etherparse) (macos : Bool) (dp : DataPlane)
    (h : DataHeader) (payload : Bytes) (addr : SocketAddr) (io : IncomingIo) :
    let out := dp.handleIncomingFrame A E macos h payload addr io
    out.encrypted = none ∨
    ∃ (r : PeerRef) (dp' : DataPlane) (packet : Bytes), dp'.localNodeId = dp.localNodeId ∧
      out.packet = some packet ∧
      out.encrypted =
        (dp'.sendToPeer A E r .pong packet (some addr) false io.pongSend).encrypted ∧
      out.frame = (dp'.sendToPeer A E r .pong packet (some addr) false io.pongSend).frame := by
  intro out
  simp only [out]
  rcases dp.handleIncomingFrame_cases A E macos h payload addr io with
    ⟨-, heap, seenFlood, result, hcall⟩ | ⟨r, packet, heap, seenFlood, -, -, hcall⟩
  · rw [hcall]
    exact .inl rfl
  · rw [hcall]
    unfold handlePacket
    simp only
    split
    · exact .inr ⟨r, { dp with heap, seenFlood }, packet, rfl, rfl, rfl, rfl⟩
    split
    · exact .inl rfl
    split
    · exact .inl rfl
    split <;> exact .inl rfl

end DataPlane

namespace Edge

/-- The frame a step encrypts. -/
def sealsBy (P : Platform) (e : Edge) : EdgeInput → Option SealedFrame
  | .send call =>
      if call.peer < e.dataplane.nextRef then
        SealedFrame.ofCall e.dataplane.localNodeId call.packetType call.payload
          (e.sendOutcome P call).encrypted (e.sendOutcome P call).frame
      else none
  | .data h payload addr io =>
      let out := e.dataOutcome P h payload addr io
      out.packet.bind fun packet =>
        SealedFrame.ofCall e.dataplane.localNodeId .pong packet out.encrypted out.frame
  | _ => none

/-- **What an edge encrypts is genuine**: the packets of its loops, and the pongs it answers
with. -/
lemma sealsBy_genuine {P : Platform} (hA : P.aead.Correct) {e : Edge} {i : EdgeInput}
    {f : SealedFrame} (hf : e.sealsBy P i = some f) : f.Genuine P.aead := by
  cases i with
  | send call =>
      simp only [sealsBy] at hf
      split_ifs at hf
      exact e.dataplane.sendToPeer_genuine hA P.etherparse call.peer call.packetType call.payload
        call.target call.flood call.net hf
  | data h payload addr io =>
      simp only [sealsBy, dataOutcome] at hf
      rcases e.dataplane.handleIncomingFrame_answer P.aead P.etherparse P.macos h payload addr io
        with hnone | ⟨r, dp', packet, hnode, hpacket, henc, hframe⟩
      · simp [SealedFrame.ofCall, hnone] at hf
      · rw [hpacket, henc, hframe, Option.bind_some, ← hnode] at hf
        exact dp'.sendToPeer_genuine hA P.etherparse r .pong packet (some addr) false io.pongSend hf
  | control | command | finishLeave | failover => cases hf

end Edge

/-- Two headers of the current version with the same wire form, each with a body, are the same, and
so are the bodies. -/
lemma DataHeader.wire_append_inj {h h' : DataHeader} {body body' : Bytes}
    (hv : h.version = protocolVersion) (hv' : h'.version = protocolVersion)
    (heq : h.wire ++ body = h'.wire ++ body') : h = h' ∧ body = body' := by
  have hread := DataHeader.decode_wire h hv body
  rw [heq, DataHeader.decode_wire h' hv' body'] at hread
  obtain rfl := Except.ok.inj hread
  exact ⟨rfl, List.append_cancel_left heq⟩

/-- A frame that is accepted has the current version and comes from another node. -/
lemma DataPlane.validateIncomingHeader_foreign {dp : DataPlane} {now : Instant} {h : DataHeader}
    (hval : (dp.validateIncomingHeader now h).1 = true) :
    h.version = protocolVersion ∧ h.srcNode ≠ dp.localNodeId := by
  unfold validateIncomingHeader at hval
  split at hval
  · cases hval
  · simp only at hval
    split_ifs at hval
    all_goals
      simp_all

/-! ## Forgeries -/

/-- Third-party ideal: a frame that is accepted under the key of a record is, header and all, one
that was encrypted under this key. -/
def Unforgeable (A : Aead) (log : List SealedFrame) (dp : DataPlane) (now : Instant)
    (h : DataHeader) (payload : Bytes) : Prop :=
  ∀ sealed ∈ dp.sealedBy A now h payload, ∀ c ∈ (dp.heap sealed.1).cipher,
    ∃ f ∈ log, f.key = c.key ∧ f.frame = h.wire ++ payload

instance (A : Aead) (log : List SealedFrame) (dp : DataPlane) (now : Instant) (h : DataHeader)
    (payload : Bytes) : Decidable (Unforgeable A log dp now h payload) :=
  inferInstanceAs (Decidable (∀ sealed ∈ dp.sealedBy A now h payload,
    ∀ c ∈ (dp.heap sealed.1).cipher, ∃ f ∈ log, f.key = c.key ∧ f.frame = h.wire ++ payload))

/-- The frame is what the node that its header names has encrypted, which is another node than the
receiver, and what is handled is the content. -/
structure SealedFrame.AcceptedAs (f : SealedFrame) (A : Aead) (dp : DataPlane) (now : Instant)
    (h : DataHeader) (payload : Bytes) : Prop where
  srcNode : f.node = h.srcNode
  originNode : f.node = h.originNode
  packetType : f.packetType = h.packetType
  foreign : f.node ≠ dp.localNodeId
  content : dp.acceptedPacket A now h payload = some f.content

/-- A genuine frame that is accepted is handled as what its author encrypted. -/
lemma SealedFrame.Genuine.acceptedAs {A : Aead} (hA : A.Correct) {dp : DataPlane} {now : Instant}
    {h : DataHeader} {payload : Bytes} {r : PeerRef} {nonce : UInt64} {c : Cipher}
    {f : SealedFrame} (hsealed : dp.sealedBy A now h payload = some (r, nonce))
    (hc : (dp.heap r).cipher = some c) (hf : f.Genuine A) (hkey : f.key = c.key)
    (hframe : f.frame = h.wire ++ payload) : f.AcceptedAs A dp now h payload := by
  unfold DataPlane.sealedBy at hsealed
  obtain ⟨r', hr, hsealed⟩ := Option.bind_eq_some_iff.mp hsealed
  split_ifs at hsealed with haccepted
  obtain ⟨rfl, -⟩ := Prod.mk.inj (Option.some.inj hsealed)
  obtain ⟨packet, hpacket⟩ := Option.isSome_iff_exists.mp haccepted.2
  have hopened := hpacket
  unfold DataPlane.acceptedPacket at hopened
  split_ifs at hopened with hval
  obtain ⟨hversion, hother⟩ := DataPlane.validateIncomingHeader_foreign hval
  obtain ⟨h', body, hv', hsrc, horigin, htype, hseal, hwire⟩ := hf
  obtain ⟨rfl, rfl⟩ := DataHeader.wire_append_inj hv' hversion (hwire.symm.trans hframe)
  rw [hkey] at hseal
  refine ⟨hsrc.symm, horigin.symm, htype.symm, hsrc ▸ hother, ?_⟩
  -- the window has let the nonce pass, so what was sealed is what is opened
  simp only [hr, DataPlane.openPayload, hc] at hopened
  cases hcheck : c.window.check h'.nonce with
  | error err =>
      rw [Cipher.decryptInPlace_refused hcheck] at hopened
      cases hopened
  | ok =>
      rw [Cipher.decryptInPlace_sealed hA hseal hcheck] at hopened
      rw [hpacket, ← Option.some.inj hopened]

/-- What is accepted under the key of a record is one of the genuine frames. -/
lemma exists_acceptedAs {A : Aead} (hA : A.Correct) {log : List SealedFrame}
    (hlog : ∀ f ∈ log, f.Genuine A) {dp : DataPlane} {now : Instant} {h : DataHeader}
    {payload : Bytes} (hunforged : Unforgeable A log dp now h payload) {sealed : PeerRef × UInt64}
    (hsealed : sealed ∈ dp.sealedBy A now h payload) :
    ∃ f ∈ log, f.AcceptedAs A dp now h payload := by
  obtain ⟨c, hc⟩ : ∃ c, (dp.heap sealed.1).cipher = some c := by
    have hcipher := hsealed
    simp only [DataPlane.sealedBy, Option.mem_def, Option.bind_eq_some_iff] at hcipher
    obtain ⟨r, -, hr⟩ := hcipher
    split_ifs at hr with haccepted
    rw [← Option.some.inj hr]
    exact Option.isSome_iff_exists.mp haccepted.1
  obtain ⟨f, hf, hkey, hframe⟩ := hunforged sealed hsealed c hc
  exact ⟨f, hf, (hlog f hf).acceptedAs hA hsealed hc hkey hframe⟩

/-! ## Whole runs -/

/-- Edges, and the frames they have encrypted so far, oldest first. -/
structure Network (ι : Type*) where
  edges : ι → Edge
  log : List SealedFrame

namespace Network

variable {ι : Type*} [DecidableEq ι]

/-- The edge `a` takes the input `i`. -/
def step (P : Platform) (s : Network ι) (ai : ι × EdgeInput) : Network ι where
  edges := Function.update s.edges ai.1 ((s.edges ai.1).step P ai.2)
  log := s.log ++ ((s.edges ai.1).sealsBy P ai.2).toList

/-- No forgery in this step. -/
def Unforged (P : Platform) (s : Network ι) : ι × EdgeInput → Prop
  | (a, .data h payload _ io) =>
      Unforgeable P.aead s.log (s.edges a).dataplane io.now h payload
  | _ => True

instance (P : Platform) (s : Network ι) : ∀ ai, Decidable (s.Unforged P ai)
  | (a, .data h payload _ io) => inferInstanceAs
      (Decidable (Unforgeable P.aead s.log (s.edges a).dataplane io.now h payload))
  | (_, .control _ _ _) | (_, .command _ _) | (_, .finishLeave) | (_, .failover _) |
    (_, .send _) => isTrue trivial

/-- A frame that is accepted under the key of a record is one that was encrypted before. -/
def Authentic (P : Platform) (s : Network ι) : ι × EdgeInput → Prop
  | (a, .data h payload _ io) =>
      ∀ sealed ∈ (s.edges a).dataplane.sealedBy P.aead io.now h payload,
        ∃ f ∈ s.log, f.AcceptedAs P.aead (s.edges a).dataplane io.now h payload
  | _ => True

/-- **Authentic delivery.**  Edges take any inputs in any order, and data frames are anything the
network makes of them, short of a forgery.  Then everything that is accepted under the key of a
record was encrypted before by the node its header names, and not by the receiver itself. -/
theorem sealed_frames_authentic (P : Platform) (hA : P.aead.Correct) (edges : ι → Edge)
    (inputs : List (ι × EdgeInput)) (hunforged : Along (step P) (Unforged P) ⟨edges, []⟩ inputs) :
    Along (step P) (Authentic P) ⟨edges, []⟩ inputs := by
  refine Along.mono_of_invariant (I := fun s : Network ι => ∀ f ∈ s.log, f.Genuine P.aead)
    ?_ ?_ inputs _ (by simp) hunforged
  · intro s ai hs _ f hf
    rcases List.mem_append.mp hf with hold | hnew
    · exact hs f hold
    · exact Edge.sealsBy_genuine hA (Option.mem_toList.mp hnew)
  · rintro s ⟨a, i⟩ hs hi
    cases i with
    | data h payload addr io =>
        intro sealed hsealed
        exact exists_acceptedAs hA hs hi hsealed
    | control | command | finishLeave | failover | send => trivial

/-- What node 1 sends as `sendPacket`, as it arrives at either node. -/
def packetFrame : EdgeInput :=
  .data
    { version := protocolVersion, flags := 0, packetType := .ipv4, reserved := 0, ttl := 0
      roomId := .fill 7, srcNode := .fill 1, dstNode := .fill 2, originNode := .fill 1
      sessionId := ⟨0⟩, nonce := 1, packetId := ⟨0⟩, payloadLen := 17 }
    (0x45 :: List.replicate aeadTagLen 0) (.localhost 1)
    { now := 0, pongSend := .sent, pongReceived := none, tunWriteOk := true }

/-- Nodes 1 and 2 complete a handshake, and node 1 sends a packet. -/
def sentRun : List (Bool × EdgeInput) := Fleet.handshakeRun ++ [(false, Edge.sendPacket)]

/-- The frame of node 1 is sent back to it and on to node 2: only node 2 accepts it. -/
theorem sealed_frames_authentic_reflected :
    let sent := run (step .transparent) ⟨Fleet.pair.edges, []⟩ sentRun
    (sent.log.map (fun f => (f.node, f.content)) = [(.fill 1, [0x45])] ∧
      (sent.edges false).sealedBy .transparent packetFrame = none ∧
      (sent.edges true).sealedBy .transparent packetFrame = some (0, 1)) ∧
    Along (step .transparent) (Authentic .transparent) ⟨Fleet.pair.edges, []⟩
      (sentRun ++ [(false, packetFrame), (true, packetFrame)]) :=
  ⟨by decide +kernel, sealed_frames_authentic .transparent Aead.transparent_correct _ _
    (by decide +kernel)⟩

end Network

end R2N
