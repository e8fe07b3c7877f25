import Mathlib.Data.Nat.Basic
import Mathlib.Order.Basic

/-!
# A channel that keeps the last value

A watch channel holds one value and the number of times it was sent.  A receiver remembers the
last number it has seen; it is woken when there is a newer one, and what it then reads is the value
of the moment, which may be newer still.  Values in between are skipped.  Sending fails, and leaves
the old value, as long as there is no receiver.

* `Channel`, `Receiver` — sending, subscribing, waiting and reading.
* `Follower` — a task that waits, reads and handles what it has read, again and again.
* `Follows` — what such a task has handled is the last thing that was told, or there is something
  it has not seen yet.  One rule for each step: `Follows.send`, `Follows.wake`, `Follows.read`,
  `Follows.handle`.
* **`Follows.handled_eq`** — a follower at rest has handled the last thing it was told.
-/

namespace Watch

variable {α : Type*}

structure Channel (α : Type*) where
  value : α
  version : ℕ
  receivers : ℕ

/-- What a receiver has seen. -/
structure Receiver where
  seen : ℕ
deriving DecidableEq

namespace Channel

/-- A value for the receivers there are. -/
def send (c : Channel α) (a : α) : Channel α :=
  if c.receivers = 0 then c else { c with value := a, version := c.version + 1 }

/-- One more receiver, which has seen everything sent so far. -/
def subscribe (c : Channel α) : Receiver × Channel α :=
  ({ seen := c.version }, { c with receivers := c.receivers + 1 })

/-- There is something new for a receiver. -/
def hasChanged (c : Channel α) (rx : Receiver) : Bool := rx.seen ≠ c.version

/-- The receiver has seen the newest version. -/
def markSeen (c : Channel α) (_ : Receiver) : Receiver := { seen := c.version }

end Channel

/-- Where a task that follows a channel is: it waits, it was woken, or it holds what it has
read. -/
inductive Follower (α : Type*) where
  | waiting
  | woken
  | holding (a : α)

/-- A follower that subscribed at version `since`: what was told last is what the channel holds,
once something was sent, and what the follower has at hand is that, unless there is something
new. -/
structure Follows (since : ℕ) (c : Channel α) (rx : Receiver) (task : Follower α)
    (handled told : α) : Prop where
  receivers : c.receivers ≠ 0
  since_le : since ≤ rx.seen
  seen_le : rx.seen ≤ c.version
  value : since < c.version → c.value = told
  waiting : task = .waiting → rx.seen = c.version → handled = told
  woken : task = .woken → since < rx.seen
  holding : ∀ a, task = .holding a → rx.seen = c.version → a = told

/-- Subscribing, with everything that was told so far handled already. -/
lemma follows_subscribe (c : Channel α) (told : α) :
    Follows c.version c.subscribe.2 c.subscribe.1 .waiting told told where
  receivers := Nat.succ_ne_zero _
  since_le := le_refl _
  seen_le := le_refl _
  value := fun h => absurd h (lt_irrefl _)
  waiting := fun _ _ => rfl
  woken := nofun
  holding := nofun

namespace Follows

variable {since : ℕ} {c : Channel α} {rx : Receiver} {task : Follower α} {handled told : α}

/-- Something is told. -/
lemma send (h : Follows since c rx task handled told) (a : α) :
    Follows since (c.send a) rx task handled a := by
  have hsend : c.send a = { c with value := a, version := c.version + 1 } :=
    if_neg h.receivers
  -- the new version is one the receiver has not seen
  have hseen : rx.seen ≠ c.version + 1 := Nat.ne_of_lt (Nat.lt_succ_of_le h.seen_le)
  rw [hsend]
  exact
    { receivers := h.receivers
      since_le := h.since_le
      seen_le := h.seen_le.trans (Nat.le_succ _)
      value := fun _ => rfl
      waiting := fun _ hs => absurd hs hseen
      woken := h.woken
      holding := fun _ _ hs => absurd hs hseen }

/-- The follower is woken by something new. -/
lemma wake (h : Follows since c rx task handled told) (hnew : c.hasChanged rx) :
    Follows since c (c.markSeen rx) .woken handled told := by
  have hne : rx.seen ≠ c.version := by simpa [Channel.hasChanged] using hnew
  have hlt : rx.seen < c.version := lt_of_le_of_ne h.seen_le hne
  exact
    { receivers := h.receivers
      since_le := (h.since_le.trans_lt hlt).le
      seen_le := le_refl _
      value := h.value
      waiting := nofun
      woken := fun _ => h.since_le.trans_lt hlt
      holding := nofun }

/-- It reads the value of the moment. -/
lemma read (h : Follows since c rx .woken handled told) :
    Follows since c rx (.holding c.value) handled told :=
  { h with
    waiting := nofun
    woken := nofun
    holding := by
      rintro _ ⟨⟩ -
      exact h.value ((h.woken rfl).trans_le h.seen_le) }

/-- It handles what it has read, and waits again. -/
lemma handle {a : α} (h : Follows since c rx (.holding a) handled told) :
    Follows since c rx .waiting a told :=
  { h with
    waiting := fun _ hs => h.holding a rfl hs
    woken := nofun
    holding := nofun }

/-- **A follower at rest** has handled the last thing it was told. -/
theorem handled_eq (h : Follows since c rx .waiting handled told) (hrest : ¬ c.hasChanged rx) :
    handled = told := by
  refine h.waiting rfl ?_
  simpa [Channel.hasChanged] using hrest

end Follows

end Watch
