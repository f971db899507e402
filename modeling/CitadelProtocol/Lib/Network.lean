import Mathlib.Logic.Function.Basic
import CitadelProtocol.Lib.Duplex

/-! # Two nodes over reliable FIFO links

A node sits at each end of a link: the initiator and the responder. A node steps either on an
input of its own (a request of its user) or on the oldest message in flight towards it. Either
way it takes a new state and sends messages, which join the queue towards the other node. A run
is any interleaving of such steps.

A property of a node's own state that both start states have, and that every step of a node
keeps, holds of both nodes in every reachable network (`node_of_reachable`).
-/

namespace Network

open Duplex

/-- What a node does on an input of its own and on a message: its new state and the messages it
sends. `none` is a step that cannot be taken. -/
structure Protocol (σ α ι : Type*) where
  act : σ → ι → Option (σ × List α)
  handle : σ → α → Option (σ × List α)

/-- The two nodes, and the messages in flight towards each, oldest first. -/
structure Net (σ α : Type*) where
  node : Side → σ
  inbox : Side → List α

/-- The steps of a run: a node acts on an input, or takes the oldest message towards it. -/
inductive Label (ι : Type*)
  | act (side : Side) (input : ι)
  | deliver (side : Side)

variable {σ α ι : Type*}

namespace Net

/-- Both nodes at their start, with nothing in flight. -/
def start (initiator responder : σ) : Net σ α where
  node
    | .initiator => initiator
    | .responder => responder
  inbox _ := []

/-- `side` takes the state `state` and sends `messages` to the other node. -/
def post (net : Net σ α) (side : Side) (state : σ) (messages : List α) : Net σ α where
  node := Function.update net.node side state
  inbox := Function.update net.inbox side.other (net.inbox side.other ++ messages)

/-- The network with the messages towards `side` replaced by `rest`. -/
def setInbox (net : Net σ α) (side : Side) (rest : List α) : Net σ α :=
  { net with inbox := Function.update net.inbox side rest }

variable (net : Net σ α) (side : Side)

@[simp] theorem node_start_initiator (initiator responder : σ) :
    (start initiator responder : Net σ α).node .initiator = initiator := rfl

@[simp] theorem node_start_responder (initiator responder : σ) :
    (start initiator responder : Net σ α).node .responder = responder := rfl

@[simp] theorem inbox_start (initiator responder : σ) :
    (start initiator responder : Net σ α).inbox side = [] := rfl

@[simp] theorem node_post_self (state : σ) (messages : List α) :
    (net.post side state messages).node side = state := by
  simp [post]

@[simp] theorem node_post_other (state : σ) (messages : List α) :
    (net.post side state messages).node side.other = net.node side.other := by
  simp [post, Function.update_of_ne (Side.other_ne side)]

@[simp] theorem inbox_post_self (state : σ) (messages : List α) :
    (net.post side state messages).inbox side = net.inbox side := by
  simp [post, Function.update_of_ne (Side.other_ne side).symm]

@[simp] theorem inbox_post_other (state : σ) (messages : List α) :
    (net.post side state messages).inbox side.other = net.inbox side.other ++ messages := by
  simp [post]

@[simp] theorem node_setInbox (rest : List α) (side' : Side) :
    (net.setInbox side rest).node side' = net.node side' := rfl

@[simp] theorem inbox_setInbox_self (rest : List α) : (net.setInbox side rest).inbox side = rest := by
  simp [setInbox]

@[simp] theorem inbox_setInbox_other (rest : List α) :
    (net.setInbox side rest).inbox side.other = net.inbox side.other := by
  simp [setInbox, Function.update_of_ne (Side.other_ne side)]

end Net

variable (p : Protocol σ α ι)

/-- One step of a run. -/
def step (net : Net σ α) : Label ι → Option (Net σ α)
  | .act side input =>
      (p.act (net.node side) input).map fun next => net.post side next.1 next.2
  | .deliver side =>
      match net.inbox side with
      | [] => none
      | message :: rest =>
          (p.handle (net.node side) message).map fun next =>
            (net.setInbox side rest).post side next.1 next.2

/-- The runs of the protocol from the two given start states. -/
def system (initiator responder : σ) : Transition.System (Net σ α) (Label ι) :=
  Transition.ofStep (· = Net.start initiator responder) (step p)

variable {p}

/-- What an input step does. -/
theorem step_act {net net' : Net σ α} {side : Side} {input : ι}
    (hstep : step p net (.act side input) = some net') :
    ∃ state messages, p.act (net.node side) input = some (state, messages) ∧
      net' = net.post side state messages := by
  simp only [step, Option.map_eq_some_iff] at hstep
  obtain ⟨⟨state, messages⟩, hact, rfl⟩ := hstep
  exact ⟨state, messages, hact, rfl⟩

/-- What a delivery does: the oldest message towards `side` is taken off and handled there. -/
theorem step_deliver {net net' : Net σ α} {side : Side}
    (hstep : step p net (.deliver side) = some net') :
    ∃ message rest state messages, net.inbox side = message :: rest ∧
      p.handle (net.node side) message = some (state, messages) ∧
      net' = (net.setInbox side rest).post side state messages := by
  simp only [step] at hstep
  split at hstep
  · cases hstep
  · rename_i message rest hinbox
    simp only [Option.map_eq_some_iff] at hstep
    obtain ⟨⟨state, messages⟩, hhandle, rfl⟩ := hstep
    exact ⟨message, rest, state, messages, hinbox, hhandle, rfl⟩

/-- A step changes one node: the one that acts or takes a message. -/
theorem node_of_step {net net' : Net σ α} {label : Label ι} (hstep : step p net label = some net')
    (side : Side) : net'.node side = net.node side ∨
      (∃ input messages, p.act (net.node side) input = some (net'.node side, messages)) ∨
      (∃ message messages, p.handle (net.node side) message = some (net'.node side, messages)) := by
  cases label with
  | act side' input =>
      obtain ⟨state, messages, hact, rfl⟩ := step_act hstep
      by_cases hside : side = side'
      · subst hside
        exact .inr (.inl ⟨input, messages, by simpa using hact⟩)
      · rw [Side.eq_other_of_ne hside, Net.node_post_other]
        exact .inl rfl
  | deliver side' =>
      obtain ⟨message, rest, state, messages, -, hhandle, rfl⟩ := step_deliver hstep
      by_cases hside : side = side'
      · subst hside
        exact .inr (.inr ⟨message, messages, by simpa using hhandle⟩)
      · rw [Side.eq_other_of_ne hside, Net.node_post_other]
        exact .inl rfl

/-- The rule for invariants of a node's own state: one that both start states have and every
step of a node keeps holds of both nodes in every reachable network. -/
theorem node_of_reachable {inv : σ → Prop} {initiator responder : σ}
    (hinitiator : inv initiator) (hresponder : inv responder)
    (hact : ∀ state input next, inv state → p.act state input = some next → inv next.1)
    (hhandle : ∀ state message next, inv state → p.handle state message = some next → inv next.1)
    {net : Net σ α} (hnet : (system p initiator responder).Reachable net) (side : Side) :
    inv (net.node side) := by
  have hinv : (system p initiator responder).Inductive fun net => ∀ side, inv (net.node side) := by
    refine ⟨?_, ?_⟩
    · rintro net rfl (_ | _)
      · exact hinitiator
      · exact hresponder
    · intro net label net' hnodes hstep side
      rcases node_of_step hstep side with hsame | ⟨input, messages, hact'⟩ |
          ⟨message, messages, hhandle'⟩
      · exact hsame ▸ hnodes side
      · exact hact _ input _ (hnodes side) hact'
      · exact hhandle _ message _ (hnodes side) hhandle'
  exact hinv.reachable hnet side

end Network
