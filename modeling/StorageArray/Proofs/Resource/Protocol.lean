import Mathlib.Tactic.Common
import StorageArray.Proofs.Job.Deferral
import StorageArray.Proofs.Resource.Creation
import StorageArray.Resource.Host
/-!
# The protocol of a creator

A creator looks a resource up and creates it when there is none, and it starts again when another
creator was faster.  `Client.CreationRun` says what a whole run looks like: its attempts, each a
lookup and a creation, and the read with which it ends, if it ends with one.  A run is taken apart
along the recursion of `createOrGetFrom`: `Client.yields_createOrGetFrom_iff` is about the first
attempt, `Client.CreationRun.cons` puts an attempt in front of a run, and
`Client.creationRun_of_yields` is the induction on the attempts that are left.
-/

namespace StorageArray

/-- One attempt of a creator. -/
structure CreationAttempt where
  /-- The answer to the lookup. -/
  lookup : Answer
  /-- The exchanges of the creation. -/
  exchanges : Transcript
  /-- The result of the creation. -/
  result : Except ArrayError Unit

/-- Another creator was faster: the creation is a conflict, or its job has failed with a text that
says, in letters of either case, that there is one already. -/
def CreationAttempt.Raced (a : CreationAttempt) : Prop :=
  (∃ kind name text, a.result = .error (.conflict kind name text)) ∨
    ∃ job text, a.result = .error (.jobFailed job text) ∧
      Text.contains (Text.lowercase text) "already exists" = true

lemma CreationAttempt.raced_iff {a : CreationAttempt} {e : ArrayError} (h : a.result = .error e) :
    a.Raced ↔ e.isCreateRace = true := by
  unfold Raced
  rw [h]
  cases e <;> simp [ArrayError.isCreateRace]

namespace Client

variable {R S : Type} {c : Client} {k : ResourceClass R S} {name : String} {spec : S}

/-! ### Requests without polls -/

/-- The requests of a transcript in order, those that read job records left out. -/
def unpolled (c : Client) (t : Transcript) : List (Site × Request) :=
  t.sent.filter fun x => !c.readsJob x.2

lemma unpolled_append (t u : Transcript) : c.unpolled (t ++ u) = c.unpolled t ++ c.unpolled u := by
  simp only [unpolled, Transcript.sent, List.map_append, List.filter_append]

lemma unpolled_cons {e : Exchange} (h : c.readsJob e.request = false) (t : Transcript) :
    c.unpolled (e :: t) = (e.site, e.request) :: c.unpolled t := by
  simp [unpolled, Transcript.sent, h]

/-- Of the requests of a change only its own is no poll. -/
lemma IsOneChange.unpolled_eq {request : Request} (hm : request.method ≠ .get) {t : Transcript}
    (h : c.IsOneChange request t) : c.unpolled t = [(c.site, request)] := by
  obtain ⟨answer, job, answers, n, rfl⟩ := h
  have hpolls : c.unpolled (c.polls job answers 0 n) = [] := by
    rw [unpolled, sent_polls]
    refine List.filter_eq_nil_iff.2 fun x hx => ?_
    obtain ⟨-, rfl⟩ := List.mem_replicate.1 hx
    simp [Arrays.readsJob_pollRequest]
  rw [unpolled_cons (Arrays.readsJob_of_ne_get c hm), hpolls]

/-- No resource is at the path of a job. -/
lemma readsJob_lookup (c : Client) (k : ResourceClass R S) (name : String) :
    c.readsJob (.get (c.resourcePath k name)) = false := by
  have hprefix :
      (c.systemPath "job/").toList.isPrefixOf (c.resourcePath k name).toList = false := by
    rw [← Bool.not_eq_true, List.isPrefixOf_iff_prefix]
    simp [systemPath, resourcePath, provisioningPath, String.toList_append]
  simp [readsJob, Request.get, hprefix]

/-! ### Runs in parts -/

/-- A lookup with its answer. -/
def lookupExchange (c : Client) (k : ResourceClass R S) (name : String) (answer : Answer) :
    Exchange :=
  ⟨c.site, .get (c.resourcePath k name), answer⟩

/-- The exchanges of attempts, and of a read after them. -/
def creationExchanges (c : Client) (k : ResourceClass R S) (name : String)
    (attempts : List CreationAttempt) (final : Option Answer) : Transcript :=
  attempts.flatMap (fun a => c.lookupExchange k name a.lookup :: a.exchanges) ++
    final.toList.map (c.lookupExchange k name)

/-- A run of a creator that may create up to `limit` times consists of these attempts, and of a
read after them if it ends with one. -/
structure CreationRun (c : Client) (k : ResourceClass R S) (name : String) (spec : S)
    (limit : Nat) (attempts : List CreationAttempt) (final : Option Answer)
    (r : Except ArrayError R) : Prop where
  /-- The lookup of an attempt finds nothing. -/
  missing : ∀ a ∈ attempts, a.lookup.IsMissing
  /-- The creation of an attempt is one of the resource. -/
  creation : ∀ a ∈ attempts,
    (c.execute (c.createRequest k name spec) ⟨k.kind, name⟩).Yields a.exchanges a.result
  /-- There are no more attempts than allowed. -/
  bounded : attempts.length ≤ limit
  /-- An attempt that is followed by another one has met a faster creator. -/
  repeated : ∀ a ∈ attempts.dropLast, a.Raced
  /-- A read at the end decides the result.  It is that of a resource just created, or a lookup
  that does not lead to an attempt. -/
  read : ∀ answer, final = some answer → r = (c.getResource k name).on answer ∧
    ((∃ a, attempts.getLast? = some a ∧ a.result = .ok ()) ∨
      (∀ a ∈ attempts, a.Raced) ∧ attempts.length < limit ∧ ¬ answer.IsMissing)
  /-- Else the run ends with the error of the last attempt.  If there was a faster creator, no
  attempt is left. -/
  failed : final = none → ∃ a e, attempts.getLast? = some a ∧ a.result = .error e ∧ r = .error e ∧
    (a.Raced → attempts.length = limit)

/-- A run ends with its first lookup, or the lookup finds nothing and a creation follows it. -/
lemma yields_createOrGetFrom_iff {attempts : Nat} {last : ArrayError} {t : Transcript}
    {r : Except ArrayError R} :
    (c.createOrGetFrom k name spec (attempts + 1) last).Yields t r ↔
      (∃ answer, t = [c.lookupExchange k name answer] ∧ ¬ answer.IsMissing ∧
        r = (c.getResource k name).on answer) ∨
      ∃ answer u v q, t = c.lookupExchange k name answer :: (u ++ v) ∧ answer.IsMissing ∧
        (c.execute (c.createRequest k name spec) ⟨k.kind, name⟩).Yields u q ∧
        (c.afterCreation k name spec attempts q).Yields v r := by
  have hmissing {answer : Answer} {e : ArrayError}
      (he : (c.getResource k name).on answer = .error e) :
      e.isNotFound = true ↔ answer.IsMissing := by
    rw [getResource, on_read] at he
    exact (fails_of_valueIn he).isNotFound_iff
  rw [createOrGetFrom, Operation.yields_settle_bind]
  constructor
  · rintro ⟨t₁, t₂, q, rfl, hlookup, hrest⟩
    obtain ⟨answer, rfl, hq⟩ := yields_read_on_iff.1 hlookup
    cases q with
    | ok record =>
        obtain ⟨rfl, rfl⟩ := Operation.yields_pure.1 hrest
        refine .inl ⟨answer, rfl, fun hgone => ?_, hq⟩
        rw [on_read_of_isMissing hgone] at hq
        cases hq
    | error e =>
        simp only at hrest
        split at hrest
        · rename_i he
          obtain ⟨u, v, q, rfl, hcreate, hafter⟩ := Operation.yields_settle_bind.1 hrest
          refine .inr ⟨answer, u, v, q, rfl, (hmissing hq.symm).1 he, hcreate, ?_⟩
          cases q <;> exact hafter
        · rename_i he
          obtain ⟨rfl, rfl⟩ := Operation.yields_fail.1 hrest
          exact .inl ⟨answer, rfl, fun hgone => he ((hmissing hq.symm).2 hgone), hq⟩
  · rintro (⟨answer, rfl, hfound, rfl⟩ | ⟨answer, u, v, q, rfl, hgone, hcreate, hafter⟩)
    · refine ⟨[_], [], _, rfl, yields_read_on_iff.2 ⟨answer, rfl, rfl⟩, ?_⟩
      rw [← getResource]
      cases hq : (c.getResource k name).on answer with
      | ok record => exact Operation.yields_pure.2 ⟨rfl, rfl⟩
      | error e =>
          simp only [mt (hmissing hq).1 hfound]
          exact Operation.yields_fail.2 ⟨rfl, rfl⟩
    · refine ⟨[_], u ++ v, _, rfl, yields_read_on_iff.2 ⟨answer, rfl, rfl⟩, ?_⟩
      rw [on_read_of_isMissing hgone]
      refine Operation.yields_settle_bind.2 ⟨u, v, q, rfl, hcreate, ?_⟩
      cases q <;> exact hafter

section Runs

variable {limit : Nat} {attempts : List CreationAttempt} {final : Option Answer}
  {a : CreationAttempt} {r : Except ArrayError R}

lemma creationExchanges_cons :
    c.creationExchanges k name (a :: attempts) final =
      c.lookupExchange k name a.lookup :: (a.exchanges ++
        c.creationExchanges k name attempts final) := by
  simp [creationExchanges]

/-- A run that ends with its first lookup. -/
lemma CreationRun.of_lookup {answer : Answer} (h : ¬ answer.IsMissing) :
    c.CreationRun k name spec (limit + 1) [] (some answer) ((c.getResource k name).on answer) where
  missing := by simp
  creation := by simp
  bounded := Nat.zero_le _
  repeated := by simp
  read := by
    rintro _ ⟨⟩
    exact ⟨rfl, .inr ⟨by simp, Nat.succ_pos limit, h⟩⟩
  failed := nofun

/-- A run of one attempt, which ends with the read after it or with its error. -/
lemma CreationRun.of_attempt (hmissing : a.lookup.IsMissing)
    (hcreation :
      (c.execute (c.createRequest k name spec) ⟨k.kind, name⟩).Yields a.exchanges a.result)
    (hread : ∀ answer, final = some answer →
      a.result = .ok () ∧ r = (c.getResource k name).on answer)
    (hfailed : final = none → ∃ e, a.result = .error e ∧ r = .error e ∧ (a.Raced → limit = 0)) :
    c.CreationRun k name spec (limit + 1) [a] final r where
  missing := by simpa using hmissing
  creation := by simpa using hcreation
  bounded := by simp
  repeated := by simp
  read := by
    intro answer hfinal
    obtain ⟨hresult, hr⟩ := hread answer hfinal
    exact ⟨hr, .inl ⟨a, rfl, hresult⟩⟩
  failed := by
    intro hfinal
    obtain ⟨e, hresult, hr, hlimit⟩ := hfailed hfinal
    exact ⟨a, e, rfl, hresult, hr, fun hraced => by simp [hlimit hraced]⟩

/-- A run that follows an attempt with a faster creator. -/
lemma CreationRun.cons (h : c.CreationRun k name spec limit attempts final r)
    (hmissing : a.lookup.IsMissing)
    (hcreation :
      (c.execute (c.createRequest k name spec) ⟨k.kind, name⟩).Yields a.exchanges a.result)
    (hraced : a.Raced) :
    c.CreationRun k name spec (limit + 1) (a :: attempts) final r where
  missing := List.forall_mem_cons.2 ⟨hmissing, h.missing⟩
  creation := List.forall_mem_cons.2 ⟨hcreation, h.creation⟩
  bounded := Nat.succ_le_succ h.bounded
  repeated := by
    intro b hb
    cases attempts with
    | nil => cases hb
    | cons a' attempts =>
        rcases List.mem_cons.1 hb with rfl | hb
        · exact hraced
        · exact h.repeated b hb
  read := by
    intro answer hfinal
    obtain ⟨hr, ⟨b, hlast, hresult⟩ | ⟨hall, hlength, hfound⟩⟩ := h.read answer hfinal
    · exact ⟨hr, .inl ⟨b, by simp [List.getLast?_cons, hlast], hresult⟩⟩
    · exact ⟨hr, .inr ⟨List.forall_mem_cons.2 ⟨hraced, hall⟩, Nat.succ_lt_succ hlength, hfound⟩⟩
  failed := by
    intro hfinal
    obtain ⟨b, e, hlast, hresult, hr, hlength⟩ := h.failed hfinal
    exact ⟨b, e, by simp [List.getLast?_cons, hlast], hresult, hr, fun hb => by simp [hlength hb]⟩

/-- The first attempt in front of what follows it, if that is a run in parts. -/
lemma creationRun_of_next {last : ArrayError} {t : Transcript}
    (hnext : ∀ {e v}, (c.createOrGetFrom k name spec limit e).Yields v r →
      (limit = 0 ∧ v = [] ∧ r = .error e) ∨
        ∃ attempts final, v = c.creationExchanges k name attempts final ∧
          c.CreationRun k name spec limit attempts final r)
    (h : (c.createOrGetFrom k name spec (limit + 1) last).Yields t r) :
    ∃ attempts final, t = c.creationExchanges k name attempts final ∧
      c.CreationRun k name spec (limit + 1) attempts final r := by
  obtain ⟨answer, rfl, hfound, rfl⟩ | ⟨answer, u, v, q, rfl, hmissing, hcreate, hafter⟩ :=
    yields_createOrGetFrom_iff.1 h
  · exact ⟨[], some answer, rfl, .of_lookup hfound⟩
  let a : CreationAttempt := ⟨answer, u, q⟩
  -- The run that ends with the error of this attempt.
  have hend {e : ArrayError} (hq : q = .error e) (hv : v = []) (hr : r = .error e)
      (hlimit : a.Raced → limit = 0) :
      ∃ attempts final,
        c.lookupExchange k name answer :: (u ++ v) = c.creationExchanges k name attempts final ∧
        c.CreationRun k name spec (limit + 1) attempts final r := by
    refine ⟨[a], none, by simp [creationExchanges, a, hv], ?_⟩
    exact .of_attempt hmissing hcreate nofun fun _ => ⟨e, hq, hr, hlimit⟩
  cases q with
  | ok _ =>
      obtain ⟨answer', rfl, hr⟩ := yields_read_on_iff.1 hafter
      refine ⟨[a], some answer', by simp [creationExchanges, a, lookupExchange], ?_⟩
      refine .of_attempt hmissing hcreate ?_ nofun
      rintro _ ⟨⟩
      exact ⟨rfl, hr⟩
  | error e =>
      have hraced : a.Raced ↔ e.isCreateRace = true := CreationAttempt.raced_iff rfl
      rw [afterCreation] at hafter
      split at hafter
      · rename_i hrace
        obtain ⟨hlimit, hv, hr⟩ | ⟨attempts, final, rfl, hrun⟩ := hnext hafter
        · exact hend rfl hv hr fun _ => hlimit
        · exact ⟨a :: attempts, final, (creationExchanges_cons (a := a)).symm,
            hrun.cons hmissing hcreate (hraced.2 hrace)⟩
      · rename_i hrace
        obtain ⟨hv, hr⟩ := Operation.yields_fail.1 hafter
        exact hend rfl hv hr fun h => absurd (hraced.1 h) hrace

/-- Every run of a creator consists of attempts and a read after them. -/
lemma creationRun_of_yields {last : ArrayError} {t : Transcript}
    (h : (c.createOrGetFrom k name spec (limit + 1) last).Yields t r) :
    ∃ attempts final, t = c.creationExchanges k name attempts final ∧
      c.CreationRun k name spec (limit + 1) attempts final r := by
  induction limit generalizing last t with
  | zero => exact creationRun_of_next (fun hfail => .inl ⟨rfl, Operation.yields_fail.1 hfail⟩) h
  | succ limit ih => exact creationRun_of_next (fun hnext => .inr (ih hnext)) h

/-- Polls left out, an attempt sends a lookup and a creation. -/
lemma unpolled_creationExchanges
    (h : ∀ a ∈ attempts, c.IsOneChange (c.createRequest k name spec) a.exchanges) :
    c.unpolled (c.creationExchanges k name attempts final) =
      attempts.flatMap (fun _ => [(c.site, .get (c.resourcePath k name)),
        (c.site, c.createRequest k name spec)]) ++
      final.toList.map fun _ => (c.site, .get (c.resourcePath k name)) := by
  have hlookup (answer : Answer) :
      c.readsJob (c.lookupExchange k name answer).request = false := readsJob_lookup c k name
  induction attempts with
  | nil =>
      cases final with
      | none => rfl
      | some answer => exact unpolled_cons (hlookup answer) []
  | cons a attempts ih =>
      obtain ⟨ha, hrest⟩ := List.forall_mem_cons.1 h
      rw [creationExchanges_cons, unpolled_cons (hlookup _), unpolled_append,
        ha.unpolled_eq Method.post_ne_get, ih hrest]
      rfl

/-- When every attempt has met a faster creator and none is left, the error is that of the last. -/
lemma CreationRun.error_of_raced (h : c.CreationRun k name spec limit attempts final r)
    (hlength : attempts.length = limit) (hraced : ∀ a ∈ attempts, a.Raced) :
    ∃ a e, attempts.getLast? = some a ∧ a.result = .error e ∧ r = .error e := by
  cases hfinal : final with
  | none =>
      obtain ⟨a, e, hlast, hresult, hr, -⟩ := h.failed hfinal
      exact ⟨a, e, hlast, hresult, hr⟩
  | some answer =>
      -- A read after the last attempt means that this attempt has created the resource.
      obtain ⟨-, ⟨a, hlast, hresult⟩ | ⟨-, hless, -⟩⟩ := h.read answer hfinal
      · rcases hraced a (List.mem_of_getLast? hlast) with ⟨_, _, _, he⟩ | ⟨_, _, he, -⟩
        · rw [hresult] at he
          cases he
        · rw [hresult] at he
          cases he
      · exact absurd hlength hless.ne

/-- A record comes from the answer to a lookup, with which the run ends. -/
lemma CreationRun.exists_lookup {record : R}
    (h : c.CreationRun k name spec limit attempts final (.ok record)) :
    ∃ before answer,
      c.creationExchanges k name attempts final = before ++ [c.lookupExchange k name answer] ∧
      answer.Carries k.shape record := by
  cases hfinal : final with
  | none =>
      obtain ⟨_, _, -, -, hr, -⟩ := h.failed hfinal
      cases hr
  | some answer =>
      exact ⟨_, answer, rfl, (on_read_eq_ok_iff rfl).1 (h.read answer hfinal).1.symm⟩

/-- A run whose first lookup does not lead to a creation is one of any other attributes too. -/
lemma yields_createOrGetFrom_of_found {last : ArrayError} {answer : Answer} {rest : Transcript}
    (hfound : ¬ answer.IsMissing)
    (h : (c.createOrGetFrom k name spec (limit + 1) last).Yields
      (c.lookupExchange k name answer :: rest) r) :
    rest = [] ∧ ∀ spec' last', (c.createOrGetFrom k name spec' (limit + 1) last').Yields
      (c.lookupExchange k name answer :: rest) r := by
  obtain ⟨answer', hsingle, hfound', rfl⟩ | ⟨answer', u, v, q, hlong, hmissing, -, -⟩ :=
    yields_createOrGetFrom_iff.1 h
  · have hrest : rest = [] := (List.cons.inj hsingle).2
    refine ⟨hrest, fun spec' last' => ?_⟩
    exact yields_createOrGetFrom_iff.2 (.inl ⟨answer', hsingle, hfound', rfl⟩)
  · have hanswer : answer = answer' := congrArg Exchange.answer (List.cons.inj hlong).1
    exact absurd (hanswer ▸ hmissing) hfound

end Runs

end Client

/-- **A creator follows a bounded protocol of lookups and creations.**  Its requests, polls left
out, are a lookup and a creation for each attempt, and a lookup at the end of those runs that do
not fail with an attempt.  `Client.CreationRun` says when there is another attempt and what the
result is.

* A creation follows a lookup that finds nothing, and all creations are the same request.
* There are at most as many creations as the settings allow, but one in any case.
* A record that is returned comes from the answer to the last request, which is a lookup.
* When all attempts have met a faster creator, the error of the last one is returned; the error
  that the loop starts with never is.
* A creator whose first lookup finds something does not depend on the attributes.

In the runs every wait has a deadline, and polls take no time. -/
theorem createOrGet_follows_protocol {R S : Type} (c : Client) (k : ResourceClass R S)
    (name : String) (spec : S) {t : Transcript} {r : Except ArrayError R}
    (hrun : (c.createOrGet k name spec).Yields t r) :
    let limit := max 1 c.settings.maxCreateAttempts
    let lookup := Request.get (c.resourcePath k name)
    let create := c.createRequest k name spec
    (∃ attempts final, c.CreationRun k name spec limit attempts final r ∧
      t = c.creationExchanges k name attempts final ∧
      c.unpolled t = attempts.flatMap (fun _ => [(c.site, lookup), (c.site, create)]) ++
        final.toList.map (fun _ => (c.site, lookup)) ∧
      (∀ a ∈ attempts, c.IsOneChange create a.exchanges) ∧
      (attempts.length = limit → (∀ a ∈ attempts, a.Raced) →
        ∃ a e, attempts.getLast? = some a ∧ a.result = .error e ∧ r = .error e)) ∧
    (∀ record, r = .ok record → ∃ before answer,
      t = before ++ [⟨c.site, lookup, answer⟩] ∧ answer.Carries k.shape record) ∧
    (∀ fallback, c.createOrGetFrom k name spec limit fallback = c.createOrGet k name spec) ∧
    ∀ answer rest, t = ⟨c.site, lookup, answer⟩ :: rest → ¬ answer.IsMissing →
      rest = [] ∧ ∀ spec', (c.createOrGet k name spec').Yields t r := by
  intro limit lookup create
  obtain ⟨attempts, hattempts⟩ : ∃ n, limit = n + 1 :=
    ⟨_, (Nat.sub_add_cancel (Nat.le_max_left 1 _)).symm⟩
  have hfallback (spec : S) (fallback : ArrayError) :
      c.createOrGetFrom k name spec limit fallback = c.createOrGet k name spec := by
    rw [Client.createOrGet, ← show limit = max 1 c.settings.maxCreateAttempts from rfl, hattempts]
    rfl
  have hfrom := hrun
  rw [← hfallback spec (.notFound k.kind name), hattempts] at hfrom
  obtain ⟨tries, final, rfl, hparts⟩ := Client.creationRun_of_yields hfrom
  rw [← hattempts] at hparts
  have hchange : ∀ a ∈ tries, c.IsOneChange create a.exchanges :=
    fun a ha => Client.shape_of_yields_execute (hparts.creation a ha)
  refine ⟨⟨tries, final, hparts, rfl, Client.unpolled_creationExchanges hchange, hchange,
    hparts.error_of_raced⟩, ?_, hfallback spec, ?_⟩
  · rintro record rfl
    exact hparts.exists_lookup
  · intro answer rest hhead hfound
    rw [hhead] at hfrom ⊢
    obtain ⟨hrest, hall⟩ := Client.yields_createOrGetFrom_of_found hfound hfrom
    refine ⟨hrest, fun spec' => ?_⟩
    rw [← hfallback spec' (.notFound k.kind name), hattempts]
    exact hall spec' _

/-- A host that is created by two: the first creation is refused by its job, and the lookup after
it finds the host of the faster creator. -/
theorem createOrGet_follows_protocol_raced :
    let c : Client := ⟨.home, ⟨"000197600123"⟩, .default⟩
    let lookup := Request.get (c.resourcePath Host.resources "esx01")
    let create := c.createRequest Host.resources "esx01" ⟨["iqn.a"]⟩
    let handle : Json := .object [("jobId", .string "7"), ("status", .string "FAILED"),
      ("result", .string "Host Already Exists")]
    let report : Json := .object [("hostId", .string "esx01"), ("initiator", .strings ["iqn.b"])]
    let t : Transcript := [⟨.home, lookup, .ok ⟨404, .null⟩⟩, ⟨.home, create, .ok ⟨202, handle⟩⟩,
      ⟨.home, lookup, .ok ⟨200, report⟩⟩]
    let host : Host := ⟨"esx01", ["iqn.b"], [], 0⟩
    (c.createOrGet Host.resources "esx01" ⟨["iqn.a"]⟩).Yields t (.ok host) ∧
      (∃ before answer, t = before ++ [⟨.home, lookup, answer⟩] ∧
        answer.Carries Host.shape host) ∧
      ∃ attempts final, c.CreationRun Host.resources "esx01" ⟨["iqn.a"]⟩ 3 attempts final
        (.ok host) ∧ attempts.length = 1 := by
  intro c lookup create handle report t host
  let s : Stage := { home := { queued := t.map (·.answer) } }
  let creator := c.createOrGet Host.resources "esx01" ⟨["iqn.a"]⟩
  have htranscript : creator.run.transcript Stage.answer s = t := by
    unfold creator c
    rfl
  have hresult : (s.perform creator).1 = .ok host := by
    unfold creator c
    rfl
  have hrun : creator.Yields t (.ok host) := Stage.yields_of_perform htranscript hresult
  obtain ⟨⟨attempts, final, hparts, -, hsent, -⟩, hlast, -⟩ :=
    createOrGet_follows_protocol c Host.resources "esx01" ⟨["iqn.a"]⟩ hrun
  refine ⟨hrun, hlast host rfl, attempts, final, hparts, ?_⟩
  have hread : c.readsJob lookup = false := Client.readsJob_lookup c Host.resources "esx01"
  have hwrite : c.readsJob create = false := Arrays.readsJob_of_ne_get c Method.post_ne_get
  have hrequests : c.unpolled t = [(.home, lookup), (.home, create), (.home, lookup)] := by
    rw [Client.unpolled_cons hread, Client.unpolled_cons hwrite, Client.unpolled_cons hread]
    rfl
  have hlength : 3 = attempts.length * 2 + final.toList.length := by
    simpa using congrArg List.length (hrequests.symm.trans hsent)
  have hfinal : final.toList.length ≤ 1 := by cases final <;> simp
  omega

end StorageArray
