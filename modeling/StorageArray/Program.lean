import StorageArray.Error
/-!
# Operations as programs of requests

An operation talks to one array, or to an array and its replication partner.  A
`Program α` is what it does: it has come to a value, or it sends a request to one of the
two sites and goes on with the answer, whatever that is.  Nothing is said about where the
answers come from, so the same program runs against a script, a model of an array or an
endpoint.  `Operation α` is a program whose value is a result or an `ArrayError`.

`Program.bind_assoc` and its companions are the monad laws; `run_bind` says that running a
sequence is running its parts one after the other.
-/

namespace StorageArray

/-- The two arrays that an operation can talk to. -/
inductive Site where
  /-- The array that the caller manages. -/
  | home
  /-- Its replication partner. -/
  | remote
deriving DecidableEq, Repr

/-- The other site. -/
def Site.other : Site → Site
  | .home => .remote
  | .remote => .home

/-- The answer to a request, or the reason why there is none. -/
abbrev Answer := Except TransportError Response

/-- A program that sends requests and comes to a value. -/
inductive Program (α : Type) where
  /-- The program has come to its value. -/
  | done (value : α)
  /-- The program sends a request and goes on with the answer. -/
  | send (site : Site) (request : Request) (resume : Answer → Program α)

namespace Program

variable {α β γ : Type}

/-- Goes on with another program. -/
def bind : Program α → (α → Program β) → Program β
  | .done a, f => f a
  | .send site request resume, f => .send site request fun answer => (resume answer).bind f

instance : Monad Program where
  pure := .done
  bind := bind

/-- Sends one request. -/
def ask (site : Site) (request : Request) : Program Answer := .send site request .done

@[simp] theorem done_bind (a : α) (f : α → Program β) : (done a).bind f = f a := rfl

@[simp] theorem send_bind (site : Site) (request : Request) (resume : Answer → Program α)
    (f : α → Program β) :
    (send site request resume).bind f = send site request fun a => (resume a).bind f := rfl

@[simp] theorem bind_done (p : Program α) : p.bind done = p := by
  induction p with
  | done a => rfl
  | send site request resume ih => simp [ih]

theorem bind_assoc (p : Program α) (f : α → Program β) (g : β → Program γ) :
    (p.bind f).bind g = p.bind fun a => (f a).bind g := by
  induction p with
  | done a => rfl
  | send site request resume ih => simp [ih]

theorem pure_eq_done (a : α) : (pure a : Program α) = done a := rfl

theorem bind_eq (p : Program α) (f : α → Program β) : p >>= f = p.bind f := rfl

instance : LawfulMonad Program :=
  LawfulMonad.mk' Program (fun p => bind_done p) (fun _ _ => rfl) (fun p f g => bind_assoc p f g)

/-- A source of answers with a state of its own. -/
abbrev Answerer (σ : Type) := Site → Request → σ → Answer × σ

/-- Runs a program against a source of answers. -/
def run {σ : Type} (answerer : Answerer σ) : Program α → σ → α × σ
  | .done a, s => (a, s)
  | .send site request resume, s =>
    let (answer, s) := answerer site request s
    (resume answer).run answerer s

theorem run_bind {σ : Type} (answerer : Answerer σ) (p : Program α) (f : α → Program β)
    (s : σ) :
    (p.bind f).run answerer s =
      (f (p.run answerer s).1).run answerer (p.run answerer s).2 := by
  induction p generalizing s with
  | done a => rfl
  | send site request resume ih => simp [run, ih]

/-- The requests that a program sends, with their sites, beside its value and the state
of the source. -/
def trace {σ : Type} (answerer : Answerer σ) :
    Program α → σ → α × List (Site × Request) × σ
  | .done a, s => (a, [], s)
  | .send site request resume, s =>
    let (answer, s) := answerer site request s
    let (a, sent, s) := (resume answer).trace answerer s
    (a, (site, request) :: sent, s)

end Program

/-- A program that ends in a result or an error. -/
abbrev Operation (α : Type) := ExceptT ArrayError Program α

namespace Operation

variable {α β : Type}

/-- An operation that sends one request to a site. -/
def ask (site : Site) (request : Request) : Operation Response :=
  ExceptT.mk do
    match ← Program.ask site request with
    | .ok response => pure (.ok response)
    | .error e => pure (.error (.transport e))

/-- The result of an operation as a value, so that an error does not end the program. -/
def settle (op : Operation α) : Operation (Except ArrayError α) :=
  ExceptT.mk (op.run.bind fun result => .done (.ok result))

@[simp] theorem run_settle (op : Operation α) :
    (settle op).run = op.run.bind fun result => .done (.ok result) := rfl

end Operation

end StorageArray
