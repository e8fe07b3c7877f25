import R2N.Lib.Bytes
import R2N.Common

/-!
# The Noise handshake

`r2n-crypto`'s `NoiseSession`, a wrapper around `snow`'s `HandshakeState` for the pattern IK: the
initiator knows the responder's static key, the first message carries the initiator's static key
and a payload, the second completes the handshake.

`snow` is third-party and taken as ideal.  What an ideal handshake message says is its *view*: a
first message says whose it is, whom it is for and what it encloses (its `Transcript`), a second
message says which transcript it answers.  `Noise` gives messages as byte strings together with
their view, and `Noise.Ideal` is the assumption that the view of a message is what was written.
A session acts on the view alone:

* a responder reads every first message addressed to its static key, learns the initiator's
  static key from it and recovers the enclosed payload;
* an initiator accepts only an answer to its own first message.
-/

namespace R2N

open Bytes (slice)

/-- What a first message binds together: the initiator's ephemeral key, the two static keys and
the enclosed payload. -/
structure Transcript where
  ephemeral : Key
  initiator : Key
  responder : Key
  payload : Bytes
deriving DecidableEq

inductive NoiseMessage where
  | first (t : Transcript)
  | second (t : Transcript) (payload : Bytes)
deriving DecidableEq

/-- The messages of the handshake as byte strings. -/
structure Noise where
  derivePublicKey : Key → Key
  firstBytes : Transcript → Bytes
  secondBytes : (ephemeral : Key) → Transcript → Bytes → Bytes
  view : Bytes → Option NoiseMessage

/-- Ideal messages mean what was written into them. -/
structure Noise.Ideal (N : Noise) : Prop where
  view_first : ∀ t, N.view (N.firstBytes t) = some (.first t)
  view_second : ∀ e t p, N.view (N.secondBytes e t p) = some (.second t p)

/-- `snow::HandshakeState` of the pattern IK by its progress; a key is a public static key. -/
inductive NoiseSession where
  /-- `build_initiator`. -/
  | initiator (localStatic remoteStatic : Key)
  /-- An initiator that has written its first message. -/
  | awaiting (t : Transcript)
  /-- `build_responder`. -/
  | responder (localStatic : Key)
  /-- A responder that has read a first message. -/
  | answering (t : Transcript)
  /-- Both messages have been exchanged; the flag says on which side. -/
  | finished (isInitiator : Bool) (t : Transcript)
deriving DecidableEq

namespace NoiseSession

/-- `NoiseSession::write_message` into a buffer of `cap` bytes: the message and the session
afterwards.  A first message has 96 bytes beyond its payload, a second one 48. -/
def writeMessage (N : Noise) (s : NoiseSession) (ephemeral : Key) (payload : Bytes) (cap : ℕ) :
    Option (Bytes × NoiseSession) :=
  match s with
  | initiator localStatic remoteStatic =>
      if 96 + payload.length ≤ cap then
        let t : Transcript :=
          { ephemeral, initiator := localStatic, responder := remoteStatic, payload }
        some (N.firstBytes t, awaiting t)
      else none
  | answering t =>
      if 48 + payload.length ≤ cap then some (N.secondBytes ephemeral t payload, finished false t)
      else none
  | _ => none

/-- `NoiseSession::read_message` into a buffer of `cap` bytes: the payload and the session
afterwards. -/
def readMessage (N : Noise) (s : NoiseSession) (message : Bytes) (cap : ℕ) :
    Option (Bytes × NoiseSession) :=
  match s, N.view message with
  | responder localStatic, some (.first t) =>
      if t.responder = localStatic ∧ t.payload.length ≤ cap then some (t.payload, answering t)
      else none
  | awaiting t, some (.second t' payload) =>
      if t' = t ∧ payload.length ≤ cap then some (payload, finished true t) else none
  | _, _ => none

def isHandshakeFinished : NoiseSession → Bool
  | finished _ _ => true
  | _ => false

/-- `HandshakeState::get_remote_static`: the static key the other side has proved to hold, or, on
an initiator, must prove to hold. -/
def remoteStatic : NoiseSession → Option Key
  | initiator _ k => some k
  | awaiting t => some t.responder
  | responder _ => none
  | answering t => some t.initiator
  | finished true t => some t.responder
  | finished false t => some t.initiator

/-- **An initiator's read.** -/
lemma readMessage_awaiting {N : Noise} {t : Transcript} {message : Bytes} {cap : ℕ}
    {res : Bytes × NoiseSession} :
    (awaiting t).readMessage N message cap = some res ↔
      ∃ payload, N.view message = some (.second t payload) ∧ payload.length ≤ cap ∧
        res = (payload, finished true t) := by
  unfold readMessage
  rcases N.view message with _ | (t' | ⟨t', p⟩)
  · simp
  · simp
  · simp only [Option.some.injEq, NoiseMessage.second.injEq]
    split_ifs with h
    · constructor
      · rintro ⟨⟩
        exact ⟨p, ⟨h.1, rfl⟩, h.2, rfl⟩
      · rintro ⟨_, ⟨-, rfl⟩, -, rfl⟩
        rfl
    · constructor
      · rintro ⟨⟩
      · rintro ⟨_, ⟨h1, rfl⟩, h2, -⟩
        exact absurd ⟨h1, h2⟩ h

end NoiseSession

/-! ## Messages in the clear -/

/-- A transcript as bytes: the three keys, then the payload. -/
def Transcript.bytes (t : Transcript) : Bytes :=
  t.ephemeral.toList ++ (t.initiator.toList ++ (t.responder.toList ++ t.payload))

def Transcript.ofBytes (l : Bytes) : Transcript where
  ephemeral := ByteArr.ofBytes 32 (slice 0 32 l)
  initiator := ByteArr.ofBytes 32 (slice 32 64 l)
  responder := ByteArr.ofBytes 32 (slice 64 96 l)
  payload := l.drop 96

lemma Transcript.ofBytes_bytes (t : Transcript) : ofBytes t.bytes = t := by
  have h0 : slice 0 32 t.bytes = t.ephemeral.toList :=
    Bytes.slice_zero_append t.ephemeral.toList_length _
  have h1 : slice 32 64 t.bytes = t.initiator.toList := by
    simp (disch := simp) only [bytes, Bytes.slice_append_of_le, Bytes.slice_zero_append,
      List.Vector.toList_length, Nat.reduceSub]
  have h2 : slice 64 96 t.bytes = t.responder.toList := by
    simp (disch := simp) only [bytes, Bytes.slice_append_of_le, Bytes.slice_zero_append,
      List.Vector.toList_length, Nat.reduceSub]
  have h3 : t.bytes.drop 96 = t.payload := by
    have hsplit : t.bytes =
        (t.ephemeral.toList ++ t.initiator.toList ++ t.responder.toList) ++ t.payload := by
      simp [bytes]
    rw [hsplit]
    exact List.drop_left' (by simp)
  simp only [ofBytes, h0, h1, h2, h3, ByteArr.ofBytes_toList]

/-- A handshake whose messages are written in the clear: a tag byte, in a second message the
payload behind its length in unary, and the transcript.  It is ideal in the sense of
`Noise.Ideal`, so concrete runs can be evaluated with it. -/
def Noise.transparent : Noise where
  derivePublicKey := id
  firstBytes := fun t => 0 :: t.bytes
  secondBytes := fun _ t p => 1 :: (List.replicate p.length 1 ++ (0 :: (p ++ t.bytes)))
  view := fun message =>
    match message with
    | [] => none
    | tag :: rest =>
        if tag = 0 then some (.first (Transcript.ofBytes rest))
        else
          let n := (rest.takeWhile fun b => b = 1).length
          some (.second (Transcript.ofBytes (rest.drop (n + 1 + n)))
            (slice (n + 1) (n + 1 + n) rest))

lemma Noise.transparent_ideal : Noise.transparent.Ideal where
  view_first := by
    intro t
    simp [transparent, Transcript.ofBytes_bytes]
  view_second := by
    intro e t p
    have hwhile : ((List.replicate p.length (1 : UInt8) ++ (0 :: (p ++ t.bytes))).takeWhile
        fun b => b = 1).length = p.length := by
      rw [List.takeWhile_append_of_pos (by simp)]
      simp
    have hdrop : (List.replicate p.length (1 : UInt8) ++ (0 :: (p ++ t.bytes))).drop
        (p.length + 1 + p.length) = t.bytes := by
      have hsplit : List.replicate p.length (1 : UInt8) ++ (0 :: (p ++ t.bytes)) =
          (List.replicate p.length 1 ++ [0] ++ p) ++ t.bytes := by simp
      rw [hsplit]
      refine List.drop_left' ?_
      simp only [List.length_append, List.length_replicate, List.length_singleton]
    have hslice : slice (p.length + 1) (p.length + 1 + p.length)
        (List.replicate p.length (1 : UInt8) ++ (0 :: (p ++ t.bytes))) = p := by
      have hsplit : List.replicate p.length (1 : UInt8) ++ (0 :: (p ++ t.bytes)) =
          (List.replicate p.length 1 ++ [0]) ++ (p ++ t.bytes) := by simp
      have hfront : (List.replicate p.length (1 : UInt8) ++ [0]).length = p.length + 1 := by simp
      rw [hsplit, Bytes.slice_append_of_le hfront.le, hfront, Nat.sub_self]
      exact Bytes.slice_zero_append (by omega) _
    simp only [transparent, hwhile, hdrop, hslice, Transcript.ofBytes_bytes]
    rfl

end R2N
