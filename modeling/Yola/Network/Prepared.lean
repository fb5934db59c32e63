import Mathlib.Data.Option.Basic

/-!
# A message with its shared encoding

`PreparedProto` of the package `network`: a view of one message for the sends of one fan-out, which marshal it
once.
-/

namespace Yola.Network

variable {Message Encoding : Type}

/-- `PreparedProto`: what has been marshalled, once, belongs to its message. -/
structure PreparedProto (encode : Message → Encoding) where
  message : Option Message
  state : Option Encoding
  marshalled : state = none ∨ state = message.map encode

namespace PreparedProto

variable {encode : Message → Encoding}

theorem fresh (message : Option Message) :
    (none : Option Encoding) = none ∨ none = message.map encode := .inl rfl

def zero : PreparedProto encode := ⟨none, none, fresh none⟩

def reset (message : Message) : PreparedProto encode := ⟨some message, none, fresh (some message)⟩

theorem once {state : Option Encoding} {message : Option Message}
    (h : state = none ∨ state = message.map encode) :
    state.or (message.map encode) = none ∨ state.or (message.map encode) = message.map encode := by
  rcases h with rfl | rfl <;> simp

/-- No encoding for the error that there is no message. -/
def marshal (p : PreparedProto encode) : Option Encoding × PreparedProto encode :=
  let state := p.state.or (p.message.map encode)
  (state, ⟨p.message, state, once p.marshalled⟩)

end PreparedProto

end Yola.Network
