import Mathlib.Tactic.Common
import StorageArray.Http.Exchange
import StorageArray.Proofs.Operation
/-!
# What a raw reply means

An endpoint replies with a status and some bytes.  The bytes become a JSON value, and the
value with its status becomes a completed request, a deferred one or an error.  `Http.meaning`
does both one after the other; `Http.Means` says, in terms of the status and the bytes alone,
what comes of them, with one case for each kind of outcome.  The cases cover every reply
(`Http.means_meaning`), and none says anything else than `Http.meaning` (`Http.Means.meaning_eq`).

The bytes matter in two ways.  Of a refusal they give the reason (`Http.Reason`), and whatever
they are there is one; of a success they carry a value (`Http.Carries`) or are beyond reading.
-/

namespace StorageArray.Http

/-- What the raw reply of an endpoint means for a request with this verb and subject. -/
def meaning (endpoint : String) (method : Method) (subject : Subject) (status : Nat)
    (bytes : List UInt8) : Except ArrayError Reply :=
  Reply.ofAnswer method subject ((decodeReply endpoint status bytes).map fun body => ⟨status, body⟩)

/-- The bytes are nothing but white space of ASCII. -/
def IsBlank (bytes : List UInt8) : Prop := ∀ b ∈ bytes, isAsciiSpace b = true

/-- The status says that the request was carried out. -/
def Accepts (status : Nat) : Prop := 200 ≤ status ∧ status ≤ 299

/-- The body describes a job: an object with an identifier and a status. -/
def IsHandle (body : Json) : Prop :=
  ∃ members, body = .object members ∧
    "jobId" ∈ members.map Prod.fst ∧ "status" ∈ members.map Prod.fst

/-- The value that the bytes of a body carry. -/
inductive Carries (bytes : List UInt8) : Json → Prop
  /-- A blank body carries null. -/
  | blank (hblank : IsBlank bytes) : Carries bytes .null
  /-- Any other body is JSON. -/
  | value {body : Json} (hblank : ¬ IsBlank bytes) (hbody : Json.ofBytes bytes = .ok body) :
    Carries bytes body

/-- The reason that the bytes of a body give for a refusal. -/
inductive Reason (bytes : List UInt8) : String → Prop
  /-- A blank body gives none. -/
  | blank (hblank : IsBlank bytes) : Reason bytes ""
  /-- Nor does null. -/
  | null (hblank : ¬ IsBlank bytes) (hbody : Json.ofBytes bytes = .ok .null) : Reason bytes ""
  /-- A text is the reason. -/
  | text {s : String} (hblank : ¬ IsBlank bytes) (hbody : Json.ofBytes bytes = .ok (.string s)) :
    Reason bytes s
  /-- The reason is in a member of its own, if that is a text. -/
  | member {body : Json} {s : String} (hblank : ¬ IsBlank bytes)
      (hbody : Json.ofBytes bytes = .ok body)
      (hmember : body.member? "message" = some (.string s)) : Reason bytes s
  /-- Any other value is the reason itself, written without white space. -/
  | compact {body : Json} (hblank : ¬ IsBlank bytes) (hbody : Json.ofBytes bytes = .ok body)
      (hnull : body ≠ .null) (htext : ∀ s, body ≠ .string s)
      (hmember : ∀ s, body.member? "message" ≠ some (.string s)) : Reason bytes body.compact
  /-- Bytes that are not JSON are read as a text, without the white space around it. -/
  | page {e : Json.ReadError} (hblank : ¬ IsBlank bytes) (hbody : Json.ofBytes bytes = .error e) :
    Reason bytes (String.ofList (Text.trimList (Text.decodeLossy bytes)))

/-- What a status and the bytes of a body mean for a request with this verb and subject. -/
inductive Means (endpoint : String) (method : Method) (subject : Subject) (status : Nat)
    (bytes : List UInt8) : Except ArrayError Reply → Prop
  /-- The subject is missing. -/
  | missing (hstatus : status = 404) :
    Means endpoint method subject status bytes (.error (.notFound subject.kind subject.name))
  /-- The subject exists already, by the status or by the reason. -/
  | conflict {text : String} (hrefused : ¬ Accepts status) (hstatus : status ≠ 404)
      (hreason : Reason bytes text) (hexists : status = 409 ∨ Reply.SaysExists text) :
    Means endpoint method subject status bytes
      (.error (.conflict subject.kind subject.name text))
  /-- The request is refused for another reason. -/
  | rejected {text : String} (hrefused : ¬ Accepts status) (hmissing : status ≠ 404)
      (hconflict : status ≠ 409) (hreason : Reason bytes text)
      (hexists : ¬ Reply.SaysExists text) :
    Means endpoint method subject status bytes (.error (.rejected status text))
  /-- The request is accepted, and its body cannot be read. -/
  | undecodable {e : Json.ReadError} (haccepted : Accepts status) (hblank : ¬ IsBlank bytes)
      (hbody : Json.ofBytes bytes = .error e) :
    Means endpoint method subject status bytes
      (.error (.transport ⟨.decode, endpoint, e.message⟩))
  /-- A read is carried out. -/
  | read {body : Json} (haccepted : Accepts status) (hmethod : method = .get)
      (hbody : Carries bytes body) :
    Means endpoint method subject status bytes (.ok (.complete body))
  /-- A change goes on as a job. -/
  | deferred {body : Json} {job : JobRecord} (haccepted : Accepts status)
      (hmethod : method ≠ .get) (hbody : Carries bytes body) (hhandle : IsHandle body)
      (hjob : JobRecord.shape.decode body = .ok job) :
    Means endpoint method subject status bytes (.ok (.deferred job))
  /-- A change goes on as a job whose description cannot be read. -/
  | unreadable {body : Json} {e : DecodeError} (haccepted : Accepts status)
      (hmethod : method ≠ .get) (hbody : Carries bytes body) (hhandle : IsHandle body)
      (hjob : JobRecord.shape.decode body = .error e) :
    Means endpoint method subject status bytes
      (.error (.unexpectedResponse "job handle" e.message))
  /-- A change is accepted for later, and no job is named. -/
  | unnamed {body : Json} (hstatus : status = 202) (hmethod : method ≠ .get)
      (hbody : Carries bytes body) (hhandle : ¬ IsHandle body) :
    Means endpoint method subject status bytes
      (.error (.unexpectedResponse subject.text "accepted response did not carry a job handle"))
  /-- A change is carried out. -/
  | complete {body : Json} (haccepted : Accepts status) (hmethod : method ≠ .get)
      (hstatus : status ≠ 202) (hbody : Carries bytes body) (hhandle : ¬ IsHandle body) :
    Means endpoint method subject status bytes (.ok (.complete body))

variable {endpoint : String} {method : Method} {subject : Subject} {status : Nat}
  {bytes : List UInt8} {body : Json}

lemma accepts_iff : (200 ≤ status && status < 300) = true ↔ Accepts status := by
  simp only [Accepts, Bool.and_eq_true, decide_eq_true_eq]
  omega

lemma isSuccess_iff : (Response.mk status body).isSuccess = true ↔ Accepts status := accepts_iff

lemma isSuccess_eq_false (hrefused : ¬ Accepts status) :
    (Response.mk status body).isSuccess = false :=
  Bool.eq_false_iff.2 fun h => hrefused (isSuccess_iff.1 h)

lemma isSome_find?_iff {name : String} {members : List (String × Json)} :
    (Json.find? name members).isSome = true ↔ name ∈ members.map Prod.fst := by
  simp [Json.find?, List.find?_isSome]

lemma isJobHandle_iff : Reply.isJobHandle body = true ↔ IsHandle body := by
  unfold Reply.isJobHandle IsHandle
  cases body with
  | object members => simp [isSome_find?_iff]
  | _ => simp [Json.member?]

/-! ### From bytes to a value -/

lemma decodeReply_of_blank (h : IsBlank bytes) : decodeReply endpoint status bytes = .ok .null :=
  if_pos (List.all_eq_true.2 h)

lemma decodeReply_of_value (hblank : ¬ IsBlank bytes) (hbody : Json.ofBytes bytes = .ok body) :
    decodeReply endpoint status bytes = .ok body := by
  rw [decodeReply, if_neg fun h => hblank (List.all_eq_true.1 h), hbody]

lemma decodeReply_of_page {e : Json.ReadError} (hrefused : ¬ Accepts status)
    (hblank : ¬ IsBlank bytes) (hbody : Json.ofBytes bytes = .error e) :
    decodeReply endpoint status bytes = .ok (.object [("message",
      .string (String.ofList (Text.trimList (Text.decodeLossy bytes))))]) := by
  have hstatus : ¬ (200 ≤ status && status < 300) = true := fun h => hrefused (accepts_iff.1 h)
  rw [decodeReply, if_neg fun h => hblank (List.all_eq_true.1 h), hbody]
  exact if_neg hstatus

lemma decodeReply_of_unreadable {e : Json.ReadError} (haccepted : Accepts status)
    (hblank : ¬ IsBlank bytes) (hbody : Json.ofBytes bytes = .error e) :
    decodeReply endpoint status bytes = .error ⟨.decode, endpoint, e.message⟩ := by
  have hstatus : (200 ≤ status && status < 300) = true := accepts_iff.2 haccepted
  rw [decodeReply, if_neg fun h => hblank (List.all_eq_true.1 h), hbody]
  exact if_pos hstatus

lemma Carries.decodeReply_eq (h : Carries bytes body) :
    decodeReply endpoint status bytes = .ok body := by
  cases h with
  | blank hblank => exact decodeReply_of_blank hblank
  | value hblank hbody => exact decodeReply_of_value hblank hbody

/-- The bytes of a body are blank, are JSON or are neither. -/
lemma carries_or_unreadable (bytes : List UInt8) :
    (∃ body, Carries bytes body) ∨
      ¬ IsBlank bytes ∧ ∃ e, Json.ofBytes bytes = .error e := by
  by_cases hblank : IsBlank bytes
  · exact .inl ⟨.null, .blank hblank⟩
  · cases hbody : Json.ofBytes bytes with
    | ok body => exact .inl ⟨body, .value hblank hbody⟩
    | error e => exact .inr ⟨hblank, e, rfl⟩

/-! ### The reason of a refusal -/

/-- A value that is neither null nor a text gives its member, or itself. -/
lemma refusalText_of_ne {body : Json} (hnull : body ≠ .null) (htext : ∀ s, body ≠ .string s) :
    Reply.refusalText body = match body.member? "message" with
      | some (.string s) => s
      | _ => body.compact := by
  cases body with
  | null => exact absurd rfl hnull
  | string s => exact absurd rfl (htext s)
  | _ => rfl

lemma reason_of_carries (h : Carries bytes body) : Reason bytes (Reply.refusalText body) := by
  cases h with
  | blank hblank => exact .blank hblank
  | value hblank hbody =>
      by_cases hnull : body = .null
      · subst hnull
        exact .null hblank hbody
      by_cases htext : ∃ s, body = .string s
      · obtain ⟨s, rfl⟩ := htext
        exact .text hblank hbody
      rw [refusalText_of_ne hnull fun s hs => htext ⟨s, hs⟩]
      split
      · rename_i s hmember
        exact .member hblank hbody hmember
      · rename_i hmember
        exact .compact hblank hbody hnull (fun s hs => htext ⟨s, hs⟩) hmember

/-- Whatever the bytes are, a refusal has a reason. -/
lemma exists_reason (endpoint : String) (hrefused : ¬ Accepts status) (bytes : List UInt8) :
    ∃ body, decodeReply endpoint status bytes = .ok body ∧
      Reason bytes (Reply.refusalText body) := by
  obtain ⟨body, hbody⟩ | ⟨hblank, e, hbody⟩ := carries_or_unreadable bytes
  · exact ⟨body, hbody.decodeReply_eq, reason_of_carries hbody⟩
  · exact ⟨_, decodeReply_of_page hrefused hblank hbody, .page hblank hbody⟩

/-- The reason is the text that is read off the decoded body. -/
lemma Reason.exists_body {text : String} (h : Reason bytes text) (endpoint : String)
    (hrefused : ¬ Accepts status) :
    ∃ body, decodeReply endpoint status bytes = .ok body ∧ Reply.refusalText body = text := by
  cases h with
  | blank hblank => exact ⟨_, decodeReply_of_blank hblank, rfl⟩
  | null hblank hbody => exact ⟨_, decodeReply_of_value hblank hbody, rfl⟩
  | text hblank hbody => exact ⟨_, decodeReply_of_value hblank hbody, rfl⟩
  | page hblank hbody => exact ⟨_, decodeReply_of_page hrefused hblank hbody, rfl⟩
  | @member body s hblank hbody hmember =>
      refine ⟨_, decodeReply_of_value hblank hbody, ?_⟩
      -- Only an object has members.
      have hnull : body ≠ .null := by
        rintro rfl
        cases hmember
      have htext : ∀ s, body ≠ .string s := by
        rintro s rfl
        cases hmember
      rw [refusalText_of_ne hnull htext, hmember]
  | @compact body hblank hbody hnull htext hmember =>
      refine ⟨_, decodeReply_of_value hblank hbody, ?_⟩
      rw [refusalText_of_ne hnull htext]
      split
      · rename_i s hs
        exact absurd hs (hmember s)
      · rfl

/-! ### From a value to its meaning -/

lemma meaning_of_ok (h : decodeReply endpoint status bytes = .ok body) :
    meaning endpoint method subject status bytes =
      Reply.classify method ⟨status, body⟩ subject := by
  rw [meaning, h]
  rfl

lemma meaning_of_refused (hrefused : ¬ Accepts status)
    (h : decodeReply endpoint status bytes = .ok body) :
    meaning endpoint method subject status bytes =
      .error (Reply.refusal subject ⟨status, body⟩) := by
  rw [meaning_of_ok h, Reply.classify_of_not_isSuccess (isSuccess_eq_false hrefused)]

lemma meaning_of_change (haccepted : Accepts status) (hmethod : method ≠ .get)
    (hbody : Carries bytes body) :
    meaning endpoint method subject status bytes =
      if Reply.isJobHandle body then
        (decodeBody "job handle" JobRecord.shape body).map .deferred
      else if status = 202 then
        .error (.unexpectedResponse subject.text "accepted response did not carry a job handle")
      else .ok (.complete body) := by
  rw [meaning_of_ok hbody.decodeReply_eq, Reply.classify_change hmethod (isSuccess_iff.2 haccepted)]

lemma means_of_refused (hrefused : ¬ Accepts status) :
    Means endpoint method subject status bytes
      (meaning endpoint method subject status bytes) := by
  obtain ⟨body, hdecode, hreason⟩ := exists_reason endpoint hrefused bytes
  rw [meaning_of_refused hrefused hdecode]
  by_cases hmissing : status = 404
  · rw [Reply.refusal, if_pos hmissing]
    exact .missing hmissing
  by_cases hexists : status = 409 ∨ Reply.SaysExists (Reply.refusalText body)
  · rw [Reply.refusal_of_conflict hmissing hexists]
    exact .conflict hrefused hmissing hreason hexists
  · obtain ⟨hconflict, htext⟩ := not_or.1 hexists
    rw [Reply.refusal_of_rejected hmissing hconflict htext]
    exact .rejected hrefused hmissing hconflict hreason htext

lemma means_of_change (haccepted : Accepts status) (hmethod : method ≠ .get)
    (hbody : Carries bytes body) :
    Means endpoint method subject status bytes
      (meaning endpoint method subject status bytes) := by
  rw [meaning_of_change haccepted hmethod hbody]
  split_ifs with hhandle hstatus
  · unfold decodeBody
    cases hjob : JobRecord.shape.decode body with
    | ok job => exact .deferred haccepted hmethod hbody (isJobHandle_iff.1 hhandle) hjob
    | error e => exact .unreadable haccepted hmethod hbody (isJobHandle_iff.1 hhandle) hjob
  · exact .unnamed hstatus hmethod hbody fun h => hhandle (isJobHandle_iff.2 h)
  · exact .complete haccepted hmethod hstatus hbody fun h => hhandle (isJobHandle_iff.2 h)

/-- Every reply falls under one of the cases. -/
lemma means_meaning :
    Means endpoint method subject status bytes
      (meaning endpoint method subject status bytes) := by
  by_cases haccepted : Accepts status
  · obtain ⟨body, hbody⟩ | ⟨hblank, e, hbody⟩ := carries_or_unreadable bytes
    · by_cases hmethod : method = .get
      · subst hmethod
        rw [meaning_of_ok hbody.decodeReply_eq, Reply.classify_get (isSuccess_iff.2 haccepted)]
        exact .read haccepted rfl hbody
      · exact means_of_change haccepted hmethod hbody
    · rw [meaning, decodeReply_of_unreadable haccepted hblank hbody]
      exact .undecodable haccepted hblank hbody
  · exact means_of_refused haccepted

/-- A reply falls under no case but that of its meaning. -/
lemma Means.meaning_eq {r : Except ArrayError Reply}
    (h : Means endpoint method subject status bytes r) :
    meaning endpoint method subject status bytes = r := by
  cases h with
  | missing hstatus =>
      have hrefused : ¬ Accepts status := by simp [Accepts, hstatus]
      obtain ⟨body, hdecode, -⟩ := exists_reason endpoint hrefused bytes
      rw [meaning_of_refused hrefused hdecode, Reply.refusal, if_pos hstatus]
  | conflict hrefused hstatus hreason hexists =>
      obtain ⟨body, hdecode, rfl⟩ := hreason.exists_body endpoint hrefused
      rw [meaning_of_refused hrefused hdecode, Reply.refusal_of_conflict hstatus hexists]
  | rejected hrefused hmissing hconflict hreason hexists =>
      obtain ⟨body, hdecode, rfl⟩ := hreason.exists_body endpoint hrefused
      rw [meaning_of_refused hrefused hdecode,
        Reply.refusal_of_rejected hmissing hconflict hexists]
  | undecodable haccepted hblank hbody =>
      rw [meaning, decodeReply_of_unreadable haccepted hblank hbody]
      rfl
  | read haccepted hmethod hbody =>
      subst hmethod
      rw [meaning_of_ok hbody.decodeReply_eq, Reply.classify_get (isSuccess_iff.2 haccepted)]
  | deferred haccepted hmethod hbody hhandle hjob =>
      rw [meaning_of_change haccepted hmethod hbody, if_pos (isJobHandle_iff.2 hhandle),
        decodeBody, hjob]
      rfl
  | unreadable haccepted hmethod hbody hhandle hjob =>
      rw [meaning_of_change haccepted hmethod hbody, if_pos (isJobHandle_iff.2 hhandle),
        decodeBody, hjob]
      rfl
  | unnamed hstatus hmethod hbody hhandle =>
      have haccepted : Accepts status := by simp [Accepts, hstatus]
      rw [meaning_of_change haccepted hmethod hbody,
        if_neg fun h => hhandle (isJobHandle_iff.1 h), if_pos hstatus]
  | complete haccepted hmethod hstatus hbody hhandle =>
      rw [meaning_of_change haccepted hmethod hbody,
        if_neg fun h => hhandle (isJobHandle_iff.1 h), if_neg hstatus]

/-- A read is never taken for something that goes on as a job. -/
lemma not_unexpectedResponse_of_fetch {c : Client} {request : Request} {t : Transcript}
    (hmethod : request.method = .get) (context detail : String) :
    ¬ (c.fetch request subject).Yields t (.error (.unexpectedResponse context detail)) := by
  intro hrun
  obtain ⟨answer, -, hr⟩ := Client.yields_fetch_iff.1 hrun
  cases answer with
  | error e => simp [Client.bodyIn, Reply.ofAnswer] at hr
  | ok response =>
      cases hs : response.isSuccess with
      | true => simp [Client.bodyIn, Reply.ofAnswer, hmethod, Reply.classify_get hs] at hr
      | false =>
          simp only [Client.bodyIn, Reply.ofAnswer, Reply.classify_of_not_isSuccess hs,
            Except.error.injEq, Reply.refusal] at hr
          split_ifs at hr

/-- **Every raw reply has one meaning.**  The status and the bytes of a reply decide, by the
cases of `Means`, what comes of it: a refusal is an error with the reason that the bytes give,
whatever they are, and never an error of decoding; bytes beyond reading spoil only a success;
and a read that succeeds is complete, so that a fetch has no unexpected response. -/
theorem reply_has_one_meaning (endpoint : String) (method : Method) (subject : Subject)
    (status : Nat) (bytes : List UInt8) (r : Except ArrayError Reply) :
    (meaning endpoint method subject status bytes = r ↔
        Means endpoint method subject status bytes r) ∧
      ∀ (c : Client) (path : String) (query : List (String × String)) (payload : Option Json)
        (t : Transcript) (context detail : String),
        ¬ (c.fetch ⟨.get, path, query, payload⟩ subject).Yields t
          (.error (.unexpectedResponse context detail)) := by
  refine ⟨⟨?_, Means.meaning_eq⟩, ?_⟩
  · rintro rfl
    exact means_meaning
  · intro c path query payload t context detail
    exact not_unexpectedResponse_of_fetch rfl context detail

/-- A byte that is a character of its own. -/
lemma decodePieces_cons {b : UInt8} {rest : List UInt8} {char : Char}
    (h : Text.decodeFirst b rest = (some char, 1)) :
    Text.decodePieces (b :: rest) = some char :: Text.decodePieces rest := by
  rw [Text.decodePieces, h]
  rfl

/-- The four letters of null are the value null. -/
lemma ofBytes_null : Json.ofBytes [0x6e, 0x75, 0x6c, 0x6c] = .ok .null := by
  have htext : Text.decodeStrict [0x6e, 0x75, 0x6c, 0x6c] = some ['n', 'u', 'l', 'l'] := by
    rw [Text.decodeStrict, decodePieces_cons rfl, decodePieces_cons rfl, decodePieces_cons rfl,
      decodePieces_cons rfl, Text.decodePieces]
    rfl
  have hletters : ['u', 'l', 'l'].dropWhile Json.isWordChar = [] := by decide
  have htokens : Json.tokens ['n', 'u', 'l', 'l'] = .ok [.word ['n', 'u', 'l', 'l']] := by
    rw [Json.tokens, if_neg (by decide), if_neg (by decide), if_neg (by decide),
      if_pos (by decide), hletters, Json.tokens]
    rfl
  rw [Json.ofBytes, htext]
  change Json.ofText ['n', 'u', 'l', 'l'] = .ok .null
  rw [Json.ofText, htokens]
  rfl

/-- The body null gives no reason for a refusal, although it is neither blank nor a text, and
would be written as a text of its own. -/
theorem null_gives_no_reason :
    ¬ IsBlank [0x6e, 0x75, 0x6c, 0x6c] ∧
      Json.ofBytes [0x6e, 0x75, 0x6c, 0x6c] = .ok .null ∧ Json.null.compact = "null" ∧
      meaning "" .get ⟨"job", "7"⟩ 500 [0x6e, 0x75, 0x6c, 0x6c] = .error (.rejected 500 "") := by
  have hblank : ¬ IsBlank [0x6e, 0x75, 0x6c, 0x6c] :=
    fun h => absurd (h 0x6e List.mem_cons_self) (by decide)
  have hexists : ¬ Reply.SaysExists "" := by
    rw [← Reply.saysExists_iff]
    decide
  have hrefused : ¬ Accepts 500 := by simp [Accepts]
  have hmeans : Means "" .get ⟨"job", "7"⟩ 500 [0x6e, 0x75, 0x6c, 0x6c]
      (.error (.rejected 500 "")) :=
    .rejected hrefused (by decide) (by decide) (.null hblank ofBytes_null) hexists
  exact ⟨hblank, ofBytes_null, rfl, hmeans.meaning_eq⟩

end StorageArray.Http
