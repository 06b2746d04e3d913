import HttpContract.Adapter
import HttpContract.Transport

/-!
# Publishers and containers

What a transport gives may be wrapped before an adapter sees it: the streamed body of an entity is
converted, and a single reply is lifted into a stream of one element or of none. An adapter then makes
its container of the publisher.
-/

namespace HttpContract

inductive Publisher (π : Type) where
  /-- As the transport gave it. -/
  | native (p : π)
  /-- An entity whose streamed body goes through an adapter. -/
  | rewrapped (p : Publisher π) (a : Adapter)
  /-- A stream of the single reply, or of none when it does not emit. -/
  | lifted (p : Publisher π) (emits : Bool)
  /-- A lifted stream that has been asked once. -/
  | spent
deriving Inhabited

/-- What an adapter makes of a publisher. A future holds work that the loop was given; an iterator begins
when its first element is asked for. -/
structure Container (π : Type) where
  conversion : Conversion
  publisher : Publisher π
deriving Inhabited

def Adapter.convert {π : Type} (a : Adapter) (p : Publisher π) : Container π := ⟨a.conversion, p⟩

namespace Container

/-- A stream as it is. -/
def ofNative {π : Type} (p : π) : Container π := ⟨.identity, .native p⟩

end Container

namespace Publisher

variable {σ π : Type}

def shape (t : Transport σ π) : Publisher π → Shape
  | native p => t.shape p
  | rewrapped _ _ => .single
  | lifted _ _ => .stream
  | spent => .stream

def isCoroutine (t : Transport σ π) : Publisher π → Bool
  | native p => t.isCoroutine p
  | rewrapped _ _ => true
  | _ => false

/-! ## Awaiting -/

/-- The body of an entity as an adapter converts it. -/
def convertBody (a : Adapter) : Reply (Container π) → Reply (Container π) :=
  Reply.mapStream fun body => a.convert body.publisher

/-- Awaits a single reply. -/
def await (t : Transport σ π) : Publisher π → σ → Outcome (Reply (Container π)) × σ
  | native p, w =>
    match t.shape p with
    | .single =>
      let (outcome, w) := t.await p w
      (outcome.map (Reply.mapStream Container.ofNative), w)
    | .stream => (.failed .wrongShape, w)
  | rewrapped p a, w =>
    let (outcome, w) := await t p w
    (outcome.map (convertBody a), w)
  | _, w => (.failed .wrongShape, w)

/-- Neither a conversion nor a shape that is found wrong takes any time of its own. -/
def pace (t : Transport σ π) : Publisher π → σ → Pace
  | native p, w => t.pace p w
  | rewrapped p _, w => pace t p w
  | _, _ => {}

def cancel (t : Transport σ π) : Publisher π → σ → σ
  | native p, w => t.cancel p w
  | rewrapped p _, w => cancel t p w
  | lifted p _, w => cancel t p w
  | spent, w => w

/-- The publisher as work that can be waited for. -/
def awaitable (t : Transport σ π) (p : Publisher π) : Awaitable σ (Reply (Container π)) where
  isCoroutine := p.isCoroutine t
  await := p.await t
  pace := p.pace t
  cancel := p.cancel t

/-! ## Pulling -/

/-- Asks a stream for its next element. A lifted stream awaits its reply when it is asked first; an error
of it that would end an iteration is not taken for the end. -/
def next (t : Transport σ π) : Publisher π → σ → Pull (Reply (Container π)) × Publisher π × σ
  | native p, w =>
    match t.shape p with
    | .single => (.failed .wrongShape, native p, w)
    | .stream =>
      let (pulled, p, w) := t.next p w
      (pulled.map Reply.value, native p, w)
  | lifted p emits, w =>
    match p.await t w with
    | (.done r, w) => (if emits then .item r else .ended, spent, w)
    | (.failed e, w) => (.failed (Carrier.stream.released e), spent, w)
    | (.pending, w) => (.pending, lifted p emits, w)
  | spent, w => (.ended, spent, w)
  | rewrapped p a, w => (.failed .wrongShape, rewrapped p a, w)

/-- Gives a stream up. -/
def close (t : Transport σ π) : Publisher π → σ → Except Failure Unit × Publisher π × σ
  | native p, w =>
    let (result, p, w) := t.close p w
    (result, native p, w)
  | _, w => (.ok (), spent, w)

/-- The publisher's elements. -/
def source (t : Transport σ π) : Source σ (Publisher π) (Reply (Container π)) where
  next := next t
  close := some (close t)

end Publisher

end HttpContract
