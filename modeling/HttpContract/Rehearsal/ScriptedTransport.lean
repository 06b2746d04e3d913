import HttpContract.Rehearsal.Script
import HttpContract.Transport

/-!
# A scripted transport

Gives the responses of a script. A single reply starts its call when it is awaited, a stream of elements
when its first element is asked for; the stream in an entity has no call of its own.
-/

namespace HttpContract.Rehearsal

inductive Handle where
  | single (operation : Operation) (bodyType : Option Hint) (request : Request) (coroutine : Bool)
  | flux (operation : Operation) (bodyType : Option Hint) (request : Request)
  | stream (s : ScriptedStream)
deriving Inhabited

namespace Handle

def shape : Handle → Shape
  | single .. => .single
  | _ => .stream

def isCoroutine : Handle → Bool
  | single _ _ _ coroutine => coroutine
  | _ => false

end Handle

/-- The stream of a response. -/
def streamOf (r : Response) : ScriptedStream where
  items := r.items
  fault := r.fault
  faultAt := r.faultAt

/-! ## Calls -/

/-- Starts a call: its response, unless it hangs or fails at once. -/
def startCall (operation : Operation) (bodyType : Option Hint) (request : Request) (s : Stage) :
    Outcome Response × Stage :=
  let r := s.upcoming
  let s := { s with started := s.started + 1 }.see (.transport operation bodyType request)
  if r.hangs then (.pending, s)
  else
    match r.fault, r.faultAt with
    | some e, none => (.failed e, s)
    | _, _ => (.done r, s)

/-- The header fields of a response and what is made of them. -/
def withHeaders (r : Response) (f : Headers → Reply Handle) : Outcome (Reply Handle) :=
  match Headers.ofItems r.headers with
  | .ok h => .done (f h)
  | .error e => .failed (.request (.header e))

/-- The reply to an operation. -/
def replyTo (operation : Operation) (r : Response) : Outcome (Reply Handle) :=
  match operation with
  | .void => .done (.value .null)
  | .headers => withHeaders r .headers
  | .bodilessEntity => withHeaders r fun h => .entity r.status h (.value .null)
  | .entity => withHeaders r fun h => .entity r.status h (.value r.body)
  | .body => .done (.value r.body)
  | .entityFlux => withHeaders r fun h => .entity r.status h (.stream (.stream (streamOf r)))
  | .bodyFlux => .failed .wrongShape

def awaitHandle : Handle → Stage → Outcome (Reply Handle) × Stage
  | .single operation bodyType request _, s =>
    match startCall operation bodyType request s with
    | (.done r, s) => (replyTo operation r, s)
    | (.failed e, s) => (.failed (Carrier.coroutine.released e), s)
    | (.pending, s) => (.pending, s)
  | _, s => (.failed .wrongShape, s)

def nextOf (h : Handle) (s : Stage) : Pull Value × Handle × Stage :=
  match h with
  | .single .. => (.failed .wrongShape, h, s)
  | .flux operation bodyType request =>
    match startCall operation bodyType request s with
    | (.done r, s) =>
      let (pulled, stream, s) := (streamOf r).next s
      (pulled, .stream stream, s)
    | (.failed e, s) => (.failed (Carrier.stream.released e), .stream { items := [], ended := true }, s)
    | (.pending, s) => (.pending, h, s)
  | .stream stream =>
    let (pulled, stream, s) := stream.next s
    (pulled, .stream stream, s)

def closeHandle (h : Handle) (s : Stage) : Except Failure Unit × Handle × Stage :=
  match h with
  | .stream stream =>
    let (result, stream, s) := stream.close s
    (result, .stream stream, s)
  | _ => (.ok (), .stream { items := [], ended := true }, s)

/-- Stops a call that hangs. -/
def cancelHandle : Handle → Stage → Stage
  | .single .., s => if s.latest.hangs then s.see .cancelled else s
  | _, s => s

/-! ## The transport -/

/-- The transport that gives the scripted responses. -/
def scripted : Transport Stage Handle where
  call operation bodyType request s :=
    (.ok (match operation.shape with
      | .single => .single operation bodyType request !s.upcoming.asObject
      | .stream => .flux operation bodyType request), s)
  shape := Handle.shape
  isCoroutine := Handle.isCoroutine
  await := awaitHandle
  cancel := cancelHandle
  next := nextOf
  close := closeHandle

/-- The publishers have the shapes that their operations call for. -/
theorem shape_of_call_scripted {operation : Operation} {bodyType : Option Hint} {request : Request}
    {s s' : Stage} {h : Handle}
    (hcall : scripted.call operation bodyType request s = (.ok h, s')) :
    scripted.shape h = operation.shape := by
  simp only [scripted, Prod.mk.injEq, Except.ok.injEq] at hcall ⊢
  obtain ⟨rfl, _⟩ := hcall
  cases operation <;> rfl

end HttpContract.Rehearsal
