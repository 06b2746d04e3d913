/-!
# Operations of the transport

Each operation asks for a part of the response: nothing, the header fields, the status, the body, or a
stream of the body's elements.
-/

namespace HttpContract

inductive Operation where
  | void
  | headers
  | bodilessEntity
  | entity
  | body
  | bodyFlux
  | entityFlux
deriving Repr, DecidableEq, Inhabited

namespace Operation

def all : List Operation := [void, headers, bodilessEntity, entity, body, bodyFlux, entityFlux]

theorem mem_all (o : Operation) : o ∈ all := by cases o <;> decide

def name : Operation → String
  | void => "request_to_void"
  | headers => "request_to_headers"
  | bodilessEntity => "request_to_bodiless_entity"
  | entity => "request_to_entity"
  | body => "request_to_body"
  | bodyFlux => "request_to_body_flux"
  | entityFlux => "request_to_entity_flux"

/-- Whether the transport is told the type of the body. -/
def takesBodyType : Operation → Bool
  | entity => true
  | body => true
  | bodyFlux => true
  | entityFlux => true
  | _ => false

end Operation

end HttpContract
