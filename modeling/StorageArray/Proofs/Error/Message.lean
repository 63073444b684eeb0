import Mathlib.Tactic.Common
import StorageArray.Error
/-!
# Texts of errors inside errors

The error of a teardown carries the errors of its steps, and these can be errors of teardowns again,
at any depth.  `ArrayError.Within` says that an error is somewhere inside another one.

The text of a teardown's error ends with the texts of the errors that it carries, one after the
other (`ArrayError.message_teardown`).  So what is a part of the text of a step is a part of the
text of the teardown, and in the same way of whatever error carries that one.
-/

namespace StorageArray.ArrayError

/-- The error is the other one, or it is inside one of the errors that the other one carries. -/
inductive Within : ArrayError → ArrayError → Prop
  /-- Every error is inside itself. -/
  | refl (e : ArrayError) : Within e e
  /-- What is inside the error of a step is inside the error of the teardown. -/
  | step {e inner : ArrayError} {resource : String} {deleted : Bool} {errors : List ArrayError}
      (hmem : inner ∈ errors) (h : Within e inner) : Within e (.teardown resource deleted errors)

/-- The texts of several errors, in order and with a semicolon between any two. -/
def listing (errors : List ArrayError) : String := "; ".intercalate (errors.map message)

/-- How the text of a teardown's error begins. -/
def heading (resource : String) (deleted : Bool) : String :=
  "teardown of " ++ resource ++ " incomplete (deleted: " ++ Json.boolText deleted ++ "): "

lemma listing_cons_cons (e e' : ArrayError) (rest : List ArrayError) :
    listing (e :: e' :: rest) = e.message ++ "; " ++ listing (e' :: rest) :=
  String.intercalate_cons_cons

lemma joined_eq_listing (errors : List ArrayError) : joined errors = listing errors := by
  induction errors with
  | nil => rfl
  | cons e rest ih =>
      cases rest with
      | nil => rfl
      | cons e' rest =>
          rw [listing_cons_cons, ← ih]
          rfl

lemma message_teardown (resource : String) (deleted : Bool) (errors : List ArrayError) :
    (teardown resource deleted errors).message = heading resource deleted ++ listing errors := by
  rw [← joined_eq_listing]
  rfl

/-- The text of an error stands in a listing behind the texts of the errors before it. -/
lemma exists_listing_eq {e : ArrayError} {errors : List ArrayError} (hmem : e ∈ errors) :
    ∃ before after, listing errors = before ++ e.message ++ after := by
  induction errors with
  | nil => cases hmem
  | cons e' rest ih =>
      cases rest with
      | nil =>
          obtain rfl := List.mem_singleton.1 hmem
          exact ⟨"", "", by simp [listing]⟩
      | cons next rest =>
          rw [listing_cons_cons]
          rcases List.mem_cons.1 hmem with rfl | hrest
          · exact ⟨"", "; " ++ listing (next :: rest), by simp [String.append_assoc]⟩
          · obtain ⟨before, after, h⟩ := ih hrest
            exact ⟨e'.message ++ "; " ++ before, after, by simp [h, String.append_assoc]⟩

/-- The text of an error inside another one is a part of the other text. -/
lemma Within.exists_message_eq {e outer : ArrayError} (h : e.Within outer) :
    ∃ before after, outer.message = before ++ e.message ++ after := by
  -- By induction on the depth: each level puts its heading and its other entries around the text.
  induction h with
  | refl => exact ⟨"", "", by simp⟩
  | @step inner resource deleted errors hmem h ih =>
      obtain ⟨left, right, hinner⟩ := ih
      obtain ⟨before, after, hlisting⟩ := exists_listing_eq hmem
      refine ⟨heading resource deleted ++ before ++ left, right ++ after, ?_⟩
      rw [message_teardown, hlisting, hinner]
      simp only [String.append_assoc]

/-- **The text of an error names every failure inside it.**  The whole text of an error at any depth
is a part of the outermost text.  Where the inner error is that of a teardown, the texts of all
errors that it carries stand there in order, each as a whole and with nothing but a semicolon and a
blank between one and the next. -/
theorem message_names_every_failure {e outer : ArrayError} (h : e.Within outer) :
    (∃ before after, outer.message = before ++ e.message ++ after) ∧
      ∀ resource deleted errors, e = .teardown resource deleted errors →
        ∃ before after,
          outer.message = before ++ "; ".intercalate (errors.map message) ++ after := by
  refine ⟨h.exists_message_eq, ?_⟩
  rintro resource deleted errors rfl
  obtain ⟨before, after, houter⟩ := h.exists_message_eq
  refine ⟨before ++ heading resource deleted, after, ?_⟩
  rw [houter, message_teardown, listing]
  simp only [String.append_assoc]

/-- A replicated volume whose partner could be neither renamed nor released. -/
theorem message_names_every_failure_of_partner :
    let partner : ArrayError :=
      .teardown "volume 00034" false [.rejected 500 "busy", .notFound "volume" "00034"]
    let outer : ArrayError :=
      .teardown "replicated volume 0012A (partner 00034 kept)" true
        [.teardown "volume 0012A" true [.validation "refused"], partner]
    partner.Within outer ∧
      ∃ before after, outer.message = before ++
        "array rejected request with status 500: busy; volume 00034 not found" ++ after := by
  intro partner outer
  have hwithin : partner.Within outer := .step (.tail _ (.head _)) (.refl _)
  obtain ⟨-, hentries⟩ := message_names_every_failure hwithin
  obtain ⟨before, after, h⟩ := hentries _ _ _ rfl
  refine ⟨hwithin, before, after, h.trans ?_⟩
  rfl

end StorageArray.ArrayError
