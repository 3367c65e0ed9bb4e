import JobProgress.Sink.Basic

namespace JobProgress

/-! A sink can be wrapped so that it is also canceled from elsewhere, through a
token. Tokens form families: cancelling a token cancels its descendants, and
leaves the tokens it descends from alone. Sinks can further be handed around
behind handles, which pass everything on. -/

structure CancelToken where
  id : Nat
  /-- The tokens it descends from, the nearest first. -/
  ancestors : List Nat
  deriving DecidableEq, Repr

namespace CancelToken

def fresh (id : Nat) : CancelToken := ⟨id, []⟩

def child (parent : CancelToken) (id : Nat) : CancelToken :=
  ⟨id, parent.id :: parent.ancestors⟩

def isCancelled (token : CancelToken) (cancelled : List Nat) : Bool :=
  (token.id :: token.ancestors).any cancelled.contains

example :
    let parent := fresh 0
    let token := parent.child 1
    token.isCancelled [0] = true ∧ parent.isCancelled [1] = false := by
  decide

end CancelToken

inductive SinkLayers (σ : Type) where
  | base (sink : σ)
  /-- Canceled also through a token. -/
  | cancellable (token : CancelToken) (inner : SinkLayers σ)
  | handle (inner : SinkLayers σ)
  deriving Repr

namespace SinkLayers

variable {σ : Type}

def innermost : SinkLayers σ → σ
  | .base sink => sink
  | .cancellable _ inner | .handle inner => inner.innermost

def mapInnermost (change : σ → σ) : SinkLayers σ → SinkLayers σ
  | .base sink => .base (change sink)
  | .cancellable token inner => .cancellable token (inner.mapInnermost change)
  | .handle inner => .handle (inner.mapInnermost change)

def tokens : SinkLayers σ → List CancelToken
  | .base _ => []
  | .cancellable token inner => token :: inner.tokens
  | .handle inner => inner.tokens

variable [ProgressSink σ]

def receive : SinkLayers σ → SinkCall → SinkLayers σ × List SinkEvent
  | .base sink, call =>
      let (sink, events) := ProgressSink.receive sink call
      (.base sink, events)
  | .cancellable token inner, call =>
      let (inner, events) := inner.receive call
      (.cancellable token inner, events)
  | .handle inner, call =>
      let (inner, events) := inner.receive call
      (.handle inner, events)

/-- A wrapper whose token is cancelled answers without asking further. -/
def ask (cancelled : List Nat) : SinkLayers σ → SinkLayers σ × Bool
  | .base sink =>
      let (sink, answer) := ProgressSink.ask sink
      (.base sink, answer)
  | .cancellable token inner =>
      if token.isCancelled cancelled then
        (.cancellable token inner, true)
      else
        let (inner, answer) := inner.ask cancelled
        (.cancellable token inner, answer)
  | .handle inner =>
      let (inner, answer) := inner.ask cancelled
      (.handle inner, answer)

end SinkLayers

/-- A wrapped sink, with the tokens cancelled so far. -/
structure WrappedSink (σ : Type) where
  layers : SinkLayers σ
  cancelled : List Nat
  deriving Repr

namespace WrappedSink

variable {σ : Type}

def bare (sink : σ) : WrappedSink σ := ⟨.base sink, []⟩

def innermost (sink : WrappedSink σ) : σ := sink.layers.innermost

def mapInnermost (change : σ → σ) (sink : WrappedSink σ) : WrappedSink σ :=
  { sink with layers := sink.layers.mapInnermost change }

def cancel (sink : WrappedSink σ) (id : Nat) : WrappedSink σ :=
  { sink with cancelled := id :: sink.cancelled }

instance [ProgressSink σ] : ProgressSink (WrappedSink σ) where
  receive sink call :=
    let (layers, events) := sink.layers.receive call
    ({ sink with layers }, events)
  ask sink :=
    let (layers, answer) := sink.layers.ask sink.cancelled
    ({ sink with layers }, answer)

end WrappedSink

end JobProgress
