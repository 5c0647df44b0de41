import HttpMux.Context
import HttpMux.Log
import HttpMux.Request.Basic
import HttpMux.Response.Basic

/-!
# `HttpMux.Script`: what handlers and layers do, step by step

A script is a tree of steps. It ends with a result, hands an input to the layers inside and goes on
with what they return, or puts a question to its surroundings and goes on with the answer. Scripts
are values, so what holds of every layer can be proved by induction on its script.

- `Script.run`: runs a script in any monad, given what its steps mean there.
- `Script.run_bind`: running one script after the other is running both.
-/

set_option autoImplicit false

namespace HttpMux

/-! ### Outcomes -/

/-- Why a handler gave no response: it raised a text or something without a text, or muxes were
nested too deeply. -/
inductive Failure
  | text (s : String)
  | silent
  | tooDeep
  deriving DecidableEq, Repr

/-- What serving a request ends in. A failure goes out through the layers until one catches it. -/
inductive Outcome
  | response (r : Response)
  | failure (f : Failure)

/-- The outcome with its response changed. -/
def Outcome.map (f : Response → Response) : Outcome → Outcome
  | .response r => .response (f r)
  | .failure e => .failure e

/-- The context after a request has been served, and the outcome. The context keeps what was
written before a failure. -/
structure Served where
  context : Context
  outcome : Outcome

/-! ### Questions -/

/-- An application: what its handlers and layers can ask it for, the type of each answer, and the
part of its state that its patterns look at. -/
structure App where
  Ask : Type
  Answer : Ask → Type
  View : Type

/-- The number of a mux. -/
abbrev MuxId := Nat

/-- What a script can ask its surroundings: to log a line, for a fresh request ID, for the text of
the time that has gone by, to serve a request on a mux, or something of the application. -/
inductive Question (A : App)
  | log (line : LogLine)
  | freshId
  | elapsed
  | serve (mux : MuxId) (c : Context) (r : Request)
  | app (q : A.Ask)

/-- The type of the answer to a question. -/
@[reducible]
def Question.Answer {A : App} : Question A → Type
  | .log _ => Unit
  | .freshId => String
  | .elapsed => String
  | .serve .. => Served
  | .app q => A.Answer q

/-! ### Scripts -/

/-- A script that hands inputs `I` inwards, gets back `O` and ends with a result `R`. -/
inductive Script (A : App) (I O R : Type)
  | done (r : R)
  | inward (i : I) (k : O → Script A I O R)
  | ask (q : Question A) (k : q.Answer → Script A I O R)

namespace Script

variable {A : App} {I O R T : Type}

/-- The script that goes on with `f` after the first one. -/
def bind (s : Script A I O R) (f : R → Script A I O T) : Script A I O T :=
  match s with
  | done r => f r
  | inward i k => inward i fun o => (k o).bind f
  | ask q k => ask q fun a => (k a).bind f

instance : Monad (Script A I O) where
  pure := done
  bind := bind

/-- Hands an input inwards and returns what comes back. -/
def call (i : I) : Script A I O O := inward i done

/-- Puts a question and returns the answer. -/
def question (q : Question A) : Script A I O q.Answer := ask q done

/-- Logs a line. -/
def log (level : LogLevel) (text : String) : Script A I O Unit := question (.log ⟨level, text⟩)

/-- A script that calls nothing inwards, as part of one that may. -/
def embed (s : Script A Empty Empty R) : Script A I O R :=
  match s with
  | done r => done r
  | inward i _ => i.elim
  | ask q k => ask q fun a => (k a).embed

/-- Runs a script. `inner` is what lies inside, and `answer` answers questions. -/
def run {M : Type → Type} [Monad M] (inner : I → M O) (answer : (q : Question A) → M q.Answer) :
    Script A I O R → M R
  | done r => pure r
  | inward i k => do (k (← inner i)).run inner answer
  | ask q k => do (k (← answer q)).run inner answer

/-- Running one script after the other is running both. -/
theorem run_bind {M : Type → Type} [Monad M] [LawfulMonad M] (inner : I → M O)
    (answer : (q : Question A) → M q.Answer) (s : Script A I O R) (f : R → Script A I O T) :
    (s.bind f).run inner answer = s.run inner answer >>= fun r => (f r).run inner answer := by
  induction s with
  | done r => simp [bind, run]
  | inward i k ih => simp [bind, run, ih]
  | ask q k ih => simp [bind, run, ih]

end Script

end HttpMux
