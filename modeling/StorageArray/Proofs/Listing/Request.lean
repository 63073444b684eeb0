import Mathlib.Tactic.Common
import StorageArray.Listing
import StorageArray.Proofs.Operation
/-!
# Requests for listings

A listing is asked for with one request.  `Answer.Lists` says which texts an answer lists under a
key; an operation that makes something of these texts and sends nothing more leaves one exchange
(`Client.yields_fetch_listed_iff`).
-/

namespace StorageArray

/-- The answer lists these texts under a key. -/
def Answer.Lists (answer : Answer) (key : String) (texts : List String) : Prop :=
  ∃ response : Response, answer = .ok response ∧ response.isSuccess = true ∧
    Listing.listed key response.body = .ok texts

namespace Client

variable {c : Client} {request : Request} {subject : Subject} {key : String} {answer : Answer}

/-- The texts that an answer to a request lists under a key. -/
def textsIn (request : Request) (subject : Subject) (key : String) (answer : Answer) :
    Except ArrayError (List String) :=
  bodyIn request subject answer >>= Listing.listed key

/-- Texts are listed exactly in the body of a success. -/
lemma textsIn_eq_ok_iff (hm : request.method = .get) {texts : List String} :
    textsIn request subject key answer = .ok texts ↔ answer.Lists key texts := by
  unfold textsIn Answer.Lists
  rw [Operation.except_bind_eq_ok_iff]
  simp only [bodyIn_eq_ok_iff hm]
  constructor
  · rintro ⟨_, ⟨response, hanswer, hsuccess, rfl⟩, hlisted⟩
    exact ⟨response, hanswer, hsuccess, hlisted⟩
  · rintro ⟨response, hanswer, hsuccess, hlisted⟩
    exact ⟨_, ⟨response, hanswer, hsuccess, rfl⟩, hlisted⟩

/-- What is made of the texts is there exactly when they are listed. -/
lemma bind_textsIn_eq_ok_iff (hm : request.method = .get) {α : Type} {f : List String → α} {a : α} :
    ((textsIn request subject key answer).bind fun texts => .ok (f texts)) = .ok a ↔
      ∃ texts, answer.Lists key texts ∧ a = f texts := by
  refine Operation.except_bind_eq_ok_iff.trans (exists_congr fun texts => ?_)
  rw [textsIn_eq_ok_iff hm, Except.ok.injEq, eq_comm]

/-- What is made of a listing is made of the texts in the answer. -/
lemma yields_fetch_listed_iff {α : Type} {f : List String → Operation α}
    {g : List String → Except ArrayError α} (hf : ∀ texts, f texts = Operation.ofExcept (g texts))
    {t : Transcript} {r : Except ArrayError α} :
    Operation.Yields (do
      let body ← c.fetch request subject
      let texts ← Operation.ofExcept (Listing.listed key body)
      f texts) t r ↔
      ∃ answer, t = [⟨c.site, request, answer⟩] ∧
        r = (textsIn request subject key answer).bind g := by
  have hread : ∀ body, (Operation.ofExcept (Listing.listed key body) >>= f) =
      Operation.ofExcept (Listing.listed key body >>= g) := by
    intro body
    obtain rfl : f = fun texts => Operation.ofExcept (g texts) := funext hf
    cases Listing.listed key body <;> rfl
  refine (Operation.yields_bind_of_answer yields_fetch_iff hread).trans ?_
  refine exists_congr fun answer => and_congr_right fun _ => ?_
  unfold textsIn
  cases bodyIn request subject answer <;> rfl

end Client

end StorageArray
