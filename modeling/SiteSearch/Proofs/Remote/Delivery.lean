import SiteSearch.Proofs.Engine.Run
import SiteSearch.Proofs.Remote.Rounds

/-!
# How often a request is sent, and where

A request that begins work on the other side goes over the hosts once: behind the first host that takes
the connection no other one is asked (`Client.work_is_sent_once`).

Any other request is made again, as long as the policy says, until a host replies
(`Client.reply_iff_replied`). A host that does not serve the request leaves it to the next one, but for
one exception: where a reply is cut off the round ends, and the hosts behind are not asked in it
(`Client.second_host_is_not_asked_behind_cutOff`).
-/

namespace SiteSearch.Remote

variable {σ η : Type} {delivery : Delivery} {contacts : List (Contact η)} {hosts : List η}

/-! ## What is passed on -/

/-- There was a connection to the host. -/
def Transmission.connects : Transmission → Bool
  | notConnected _ => false
  | replied _ | timedOut _ | broken _ | cutOff _ => true

namespace Contact

/-- The host did not serve the request, whatever the way it failed in. -/
def Failed (c : Contact η) : Prop := ∃ detail, c.result = .error (.transport detail)

/-- A reply of the host began, but it ended early. -/
def CutOff (c : Contact η) : Prop := ∃ detail, c.outcome = .ok (.cutOff detail)

theorem passesOn_atMostOnce {c : Contact η} : c.PassesOn .atMostOnce ↔ c.Unconnected := by
  constructor
  · rintro ⟨t, houtcome, hpasses⟩
    cases t with
    | notConnected detail => exact ⟨detail, houtcome⟩
    | _ => cases hpasses
  · rintro ⟨detail, houtcome⟩
    exact ⟨_, houtcome, rfl⟩

theorem PassesOn.failed {delivery : Delivery} {c : Contact η} (h : c.PassesOn delivery) : c.Failed := by
  obtain ⟨t, houtcome, hpasses⟩ := h
  cases t with
  | replied reply => cases hpasses
  | _ => exact ⟨_, by rw [result, houtcome]; rfl⟩

/-- A request that may be sent again goes on to the next host unless the reply was cut off. -/
theorem Failed.passesOn_or_cutOff {c : Contact η} (h : c.Failed) (hrequest : ∃ t, c.outcome = .ok t) :
    c.PassesOn .retryable ∨ c.CutOff := by
  obtain ⟨t, houtcome⟩ := hrequest
  cases t with
  | replied reply =>
    obtain ⟨detail, hdetail⟩ := h
    rw [result, houtcome] at hdetail
    cases hdetail
  | cutOff detail => exact .inr ⟨detail, houtcome⟩
  | _ => exact .inl ⟨_, houtcome, rfl⟩

theorem result_eq_ok_iff {c : Contact η} {reply : Reply} :
    c.result = .ok reply ↔ c.outcome = .ok (.replied reply) := by
  unfold result
  cases c.outcome with
  | error e => simp [Except.bind]
  | ok t => cases t <;> simp [Except.bind, Transmission.result]

end Contact

/-! ## Rounds in which no host serves the request -/

theorem failed_of_resultOf_eq {c : Contact η} (hround : IsRound delivery hosts contacts)
    (hresult : ∃ detail, resultOf noHosts contacts = .error (.transport detail)) (hc : c ∈ contacts) :
    c.Failed := by
  rcases mem_dropLast_or_last hc with hc | hlast
  · exact (hround.passed c hc).failed
  · obtain ⟨detail, hdetail⟩ := hresult
    refine ⟨detail, ?_⟩
    simpa [resultOf, hlast] using hdetail

/-- What a round replies is what its last host replies. -/
theorem resultOf_eq_ok_iff {reply : Reply} : resultOf noHosts contacts = .ok reply ↔
    ∃ c, contacts.getLast? = some c ∧ c.outcome = .ok (.replied reply) := by
  unfold resultOf
  cases contacts.getLast? with
  | none => simp
  | some c => simp [Contact.result_eq_ok_iff]

namespace Client

variable {client : Client} {network : Network σ} {now : Int} {request : Request} {s : σ}

/-- What a client does about a request: rounds over its hosts, with what is sent in them. -/
structure Course (client : Client) (network : Network σ) (now : Int) (request : Request) (s : σ)
    (rounds : List (List (Contact Url))) (s' : σ × List (Message × Transmission)) : Prop where
  meets : Meets (client.transmit network now request) s rounds.flatten s'.1
  journal : s'.2 = rounds.flatten.filterMap (client.sent? now request)
  isRound : ∀ r ∈ rounds, IsRound request.delivery client.hosts r

/-- The course that a request takes ends as the policy says. -/
theorem exists_course (client : Client) (network : Network σ) (now : Int) (request : Request) (s : σ) :
    ∃ rounds answer,
      client.Course network now request s rounds
        ((client.deliver network.journaled now request).run (s, [])).2 ∧
      (request.delivery.policy client.retry).Ending EngineError.isTransient 0
        (client.look (request.delivery.policy client.retry)) (rounds.map (resultOf noHosts)) answer ∧
      ((client.deliver network.journaled now request).run (s, [])).1 =
        answer.getD (.error (.transport "Request failed: no host replied")) := by
  obtain ⟨rounds, hmeets, hrounds, hending⟩ := exists_rounds
    (client.transmit network.journaled now request) request.delivery client.retry client.hosts
    (client.look (request.delivery.policy client.retry)) (s, [])
  obtain ⟨hplain, hjournal⟩ := journal_of_meets hmeets
  exact ⟨rounds, _, ⟨hplain, hjournal, hrounds⟩, hending, rfl⟩

/-- There is no request for a host only where its address cannot be gone on from. -/
theorem configuration_of_meets {contacts : List (Contact Url)} {s' : σ}
    (h : Meets (client.transmit network now request) s contacts s') {c : Contact Url}
    (hc : c ∈ contacts) {e : EngineError} (hfails : c.outcome = .error e) :
    ∃ reason, e = .configuration reason := by
  induction contacts generalizing s with
  | nil => cases hc
  | cons first contacts ih =>
    obtain ⟨s₁, hcontact, hrest⟩ := h
    rcases List.mem_cons.1 hc with rfl | hc
    · unfold transmit at hcontact
      split at hcontact
      · rw [hfails] at hcontact
        exact ⟨_, (Except.error.inj (Prod.mk.inj hcontact).1).symm⟩
      · split at hcontact
        all_goals
          rw [hfails] at hcontact
          cases (Prod.mk.inj hcontact).1
    · exact ih hrest hc

/-! ## Requests that begin work -/

end Client

/-- The calls that begin work on the other side. -/
def StartsWork : EngineCall → Prop
  | .createIndex _ _ | .cloneIndex _ _ _ | .reindex _ => True
  | _ => False

theorem delivery_of_startsWork {call : EngineCall} (h : StartsWork call) :
    (Request.ofCall call).delivery = .atMostOnce := by
  cases call <;> first | rfl | cases h

theorem outcome_of_sent {client : Client} {now : Int} {request : Request} {c : Contact Url}
    {sent : Message × Transmission} (h : client.sent? now request c = some sent) :
    c.outcome = .ok sent.2 := by
  unfold Client.sent? at h
  split at h
  · rename_i houtcome
    split at h
    · obtain rfl := Option.some.inj h
      exact houtcome
    · cases h
  · cases h

/-- Of hosts that are asked only behind ones without a connection, one at most has a connection. -/
theorem length_connecting_le {client : Client} {now : Int} {request : Request}
    {contacts : List (Contact Url)} (h : ∀ c ∈ contacts.dropLast, c.Unconnected) :
    ((contacts.filterMap (client.sent? now request)).filter (·.2.connects)).length ≤ 1 := by
  induction contacts with
  | nil => simp
  | cons c contacts ih =>
    rw [List.filterMap_cons]
    cases contacts with
    | nil =>
      refine Nat.le_trans (List.length_filter_le _ _) ?_
      cases client.sent? now request c <;> simp
    | cons next contacts =>
      rw [List.dropLast_cons_cons] at h
      obtain ⟨⟨detail, hunconnected⟩, hrest⟩ := List.forall_mem_cons.1 h
      have hlater := ih hrest
      cases hsent : client.sent? now request c with
      | none => exact hlater
      | some sent =>
        have houtcome := outcome_of_sent hsent
        rw [hunconnected] at houtcome
        rwa [List.filter_cons_of_neg (by simp [← Except.ok.inj houtcome, Transmission.connects])]

namespace Client

/-- A client of two hosts that goes over them twice. -/
def ofReplicas : Client where
  hosts := ["a.example", "b.example"].map fun name =>
    { scheme := "http", host := some (.name name), path := .segments [""] }
  credentials := .basic "elastic" "pw"
  retry := ⟨.zero, .zero, .ofNat 1, some 2⟩

/-- A network on which something becomes of all that goes to the first of the two, and in which the other
one replies. -/
def firstHostTo (t : Transmission) : Network Unit :=
  fun message s => (if message.url.host = some (.name "a.example") then t else .replied ⟨200, []⟩, s)

/-- The hosts that messages went to. -/
def hostsOf (journal : List (Message × Transmission)) : List (Option Host) := journal.map (·.1.url.host)

/-- **Work is begun at most once.** A call that begins work goes over the hosts in their order, and past
a host only if there was no connection to it. So one host at most gets the request, no host is asked
twice, and what that host says is the outcome of the call; without any connection it is a transport
error. -/
theorem work_is_sent_once (client : Client) (network : Network σ) (now : Int) (s : σ) (call : EngineCall)
    (h : StartsWork call) :
    let run := client.engine network.journaled now call (s, [])
    ∃ contacts : List (Contact Url),
      Meets (client.transmit network now (.ofCall call)) s contacts run.2.1 ∧
      run.2.2 = contacts.filterMap (client.sent? now (.ofCall call)) ∧
      contacts.map (·.host) <+: client.hosts ∧
      (∀ c ∈ contacts.dropLast, c.Unconnected) ∧
      (run.2.2.filter (·.2.connects)).length ≤ 1 ∧
      (∀ c ∈ contacts, ¬ c.Unconnected → run.1 = c.result.bind (·.outcome call)) ∧
      ((∀ c ∈ contacts, c.Unconnected) →
        contacts.map (·.host) = client.hosts ∧ ∃ detail, run.1 = .error (.transport detail)) := by
  intro run
  obtain ⟨rounds, answer, hcourse, hending, hanswer⟩ :=
    exists_course client network now (.ofCall call) s
  have honce := delivery_of_startsWork h
  rw [honce] at hending
  -- the policy is the one that allows one attempt, so there is one round
  obtain ⟨result, rfl⟩ := hending.exists_answer rfl
  have hfew := hending.length_le rfl
  have hlast := (hending.answered result rfl).1
  obtain ⟨contacts, rfl⟩ : ∃ contacts, rounds = [contacts] := by
    rcases rounds with _ | ⟨contacts, _ | ⟨next, rounds⟩⟩
    · cases hlast
    · exact ⟨contacts, rfl⟩
    · simp at hfew
  obtain rfl : resultOf noHosts contacts = result := Option.some.inj hlast
  have hround : IsRound .atMostOnce client.hosts contacts := honce ▸ hcourse.isRound contacts (by simp)
  have hpassed : ∀ c ∈ contacts.dropLast, c.Unconnected :=
    fun c hc => Contact.passesOn_atMostOnce.1 (hround.passed c hc)
  have hrun : run.1 = (resultOf noHosts contacts).bind (·.outcome call) :=
    congrArg (fun result => result.bind fun reply => reply.outcome call) hanswer
  have hflat : [contacts].flatten = contacts := by simp
  have hjournal : run.2.2 = contacts.filterMap (client.sent? now (.ofCall call)) :=
    hcourse.journal.trans (by rw [hflat])
  refine ⟨contacts, hflat ▸ hcourse.meets, hjournal, hround.inOrder, hpassed, ?_, ?_, ?_⟩
  · rw [hjournal]
    exact length_connecting_le hpassed
  · intro c hc hconnected
    rcases mem_dropLast_or_last hc with hc | hlast
    · exact absurd (hpassed c hc) hconnected
    · rw [hrun, resultOf, hlast]
      rfl
  · intro hall
    refine ⟨?_, ?_⟩
    · rcases hround.complete with hhosts | ⟨c, hc, hsettles⟩
      · exact hhosts
      · exact absurd (Contact.passesOn_atMostOnce.2 (hall c (List.mem_of_getLast? hc))) hsettles
    · rw [hrun, resultOf]
      cases hc : contacts.getLast? with
      | none => exact ⟨_, rfl⟩
      | some c =>
        obtain ⟨detail, hdetail⟩ :=
          (Contact.passesOn_atMostOnce.2 (hall c (List.mem_of_getLast? hc))).failed
        exact ⟨detail, by rw [Option.map_some, Option.getD_some, hdetail]; rfl⟩

theorem copy_is_begun_behind_no_timeout :
    let run := ofReplicas.engine (firstHostTo (.timedOut "30 s")).journaled 0 (.reindex .null) ((), [])
    run.1 = .error (.transport "Request timeout: 30 s") ∧ hostsOf run.2.2 = [some (.name "a.example")] ∧
      (run.2.2.filter (·.2.connects)).length ≤ 1 := by
  obtain ⟨contacts, -, -, -, -, hconnecting, -⟩ :=
    work_is_sent_once ofReplicas (firstHostTo (.timedOut "30 s")) 0 () (.reindex .null) trivial
  exact ⟨by decide +kernel, by decide +kernel, hconnecting⟩

end Client

/-! ## Requests that may be sent again -/

theorem exists_transport_of_isPassing {result : Except EngineError Reply}
    (h : RetryPolicy.IsPassing EngineError.isTransient result) :
    ∃ detail, result = .error (.transport detail) := by
  obtain ⟨e, rfl, htransient⟩ := h
  cases e with
  | transport detail => exact ⟨detail, rfl⟩
  | _ => cases htransient

theorem length_flatten_le {rounds : List (List (Contact η))} {n : Nat} (h : ∀ r ∈ rounds, r.length ≤ n) :
    rounds.flatten.length ≤ rounds.length * n := by
  induction rounds with
  | nil => simp
  | cons r rounds ih =>
    obtain ⟨hr, hrest⟩ := List.forall_mem_cons.1 h
    have := ih hrest
    rw [List.flatten_cons, List.length_append, List.length_cons, Nat.succ_mul]
    omega

/-- A round without a reply covers all hosts unless a reply is cut off before the last one. -/
theorem IsRound.covers_iff (h : IsRound .retryable hosts contacts) (hfailed : ∀ c ∈ contacts, c.Failed)
    (hrequest : ∀ c ∈ contacts, ∃ t, c.outcome = .ok t) :
    contacts.map (·.host) = hosts ↔ ∀ c ∈ contacts, c.CutOff → contacts.length = hosts.length := by
  constructor
  · rintro rfl c - -
    simp
  · intro hcut
    rcases h.complete with hall | ⟨c, hlast, hsettles⟩
    · exact hall
    · have hc := List.mem_of_getLast? hlast
      have hlength := hcut c hc (((hfailed c hc).passesOn_or_cutOff (hrequest c hc)).resolve_left hsettles)
      exact h.inOrder.eq_of_length (by simpa using hlength)

theorem not_replied_of_failed {c : Contact η} (h : c.Failed) (reply : Reply) :
    c.outcome ≠ .ok (.replied reply) := by
  intro houtcome
  obtain ⟨detail, hdetail⟩ := h
  rw [Contact.result_eq_ok_iff.2 houtcome] at hdetail
  cases hdetail

section Last

variable {before : List (List (Contact η))} {last : List (Contact η)}

/-- Only the last of all hosts that are asked may serve the request. -/
theorem failed_of_mem_dropLast (hbefore : ∀ r ∈ before, ∀ c ∈ r, c.Failed)
    (hlast : IsRound delivery hosts last) {c : Contact η} (hc : c ∈ (before ++ [last]).flatten.dropLast) :
    c.Failed := by
  rw [List.flatten_append, List.flatten_singleton, List.dropLast_append] at hc
  split at hc
  · obtain ⟨r, hr, hc⟩ := List.mem_flatten.1 (List.dropLast_subset _ hc)
    exact hbefore r hr c hc
  · rcases List.mem_append.1 hc with hc | hc
    · obtain ⟨r, hr, hc⟩ := List.mem_flatten.1 hc
      exact hbefore r hr c hc
    · exact (hlast.passed c hc).failed

/-- The last round comes to a reply if any host replied. -/
theorem resultOf_last_eq_ok_iff (hbefore : ∀ r ∈ before, ∀ c ∈ r, c.Failed)
    (hlast : IsRound delivery hosts last) {reply : Reply} :
    resultOf noHosts last = .ok reply ↔
      ∃ c ∈ (before ++ [last]).flatten, c.outcome = .ok (.replied reply) := by
  rw [resultOf_eq_ok_iff]
  constructor
  · rintro ⟨c, hc, hreplied⟩
    exact ⟨c, List.mem_flatten_of_mem (by simp) (List.mem_of_getLast? hc), hreplied⟩
  · rintro ⟨c, hc, hreplied⟩
    rw [List.flatten_append, List.flatten_singleton, List.mem_append] at hc
    rcases hc with hc | hc
    · obtain ⟨r, hr, hc⟩ := List.mem_flatten.1 hc
      exact absurd hreplied (not_replied_of_failed (hbefore r hr c hc) reply)
    · rcases mem_dropLast_or_last hc with hpassed | hdecides
      · exact absurd hreplied (not_replied_of_failed (hlast.passed c hpassed).failed reply)
      · exact ⟨c, hdecides, hreplied⟩

/-- A round fails with a transport error, or because there is no request for its last host. -/
theorem exists_transport_of_resultOf {e : EngineError} (h : resultOf noHosts contacts = .error e) :
    (∃ detail, e = .transport detail) ∨ ∃ c ∈ contacts, c.outcome = .error e := by
  unfold resultOf at h
  cases hlast : contacts.getLast? with
  | none =>
    rw [hlast] at h
    exact .inl ⟨_, (Except.error.inj h).symm⟩
  | some c =>
    rw [hlast, Option.map_some, Option.getD_some, Contact.result] at h
    cases houtcome : c.outcome with
    | error other =>
      rw [houtcome] at h
      exact .inr ⟨c, List.mem_of_getLast? hlast, by rw [houtcome, Except.error.inj h]⟩
    | ok t =>
      rw [houtcome] at h
      cases t with
      | replied reply => cases h
      | _ => exact .inl ⟨_, (Except.error.inj h).symm⟩

end Last

namespace Client

variable {client : Client} {network : Network σ} {now : Int} {request : Request} {s : σ}

/-- A host that failed is one that there was a request for. -/
theorem exists_transmission_of_failed {contacts : List (Contact Url)} {s' : σ}
    (h : Meets (client.transmit network now request) s contacts s') {c : Contact Url}
    (hc : c ∈ contacts) (hfailed : c.Failed) : ∃ t, c.outcome = .ok t := by
  cases houtcome : c.outcome with
  | ok t => exact ⟨t, rfl⟩
  | error e =>
    obtain ⟨reason, rfl⟩ := configuration_of_meets h hc houtcome
    obtain ⟨detail, hdetail⟩ := hfailed
    rw [Contact.result, houtcome] at hdetail
    cases hdetail

/-- Where nothing but failures to be tried again is seen, all rounds of the policy are made. -/
theorem length_eq_look {policy : RetryPolicy} {results : List (Except EngineError Reply)}
    {answer : Option (Except EngineError Reply)}
    (h : policy.Ending EngineError.isTransient 0 (client.look policy) results answer)
    (hpassing : ∀ result, answer = some result → RetryPolicy.IsPassing EngineError.isTransient result) :
    results.length = client.look policy := by
  cases answer with
  | none => exact (h.unanswered rfl).1
  | some result =>
    cases hlimit : policy.limit with
    | none =>
      have hspent := (h.answered result rfl).2 (hpassing result rfl)
      simp [RetryPolicy.isSpent, hlimit] at hspent
    | some n =>
      rw [h.length_eq hlimit (hpassing result rfl), look, hlimit]

/-- Behind rounds in which no host served the request there is one that decides it, unless nobody looks
further. -/
theorem rounds_cases {rounds : List (List (Contact Url))} {policy : RetryPolicy} {look : Nat}
    {answer : Option (Except EngineError Reply)}
    (hrounds : ∀ r ∈ rounds, IsRound delivery client.hosts r)
    (hending : policy.Ending EngineError.isTransient 0 look (rounds.map (resultOf noHosts)) answer) :
    (∃ before last, rounds = before ++ [last] ∧ answer = some (resultOf noHosts last) ∧
        ∀ r ∈ before, ∀ c ∈ r, c.Failed) ∨
      answer = none ∧ ∀ r ∈ rounds, ∀ c ∈ r, c.Failed := by
  have hfailed : ∀ r ∈ rounds, RetryPolicy.IsPassing EngineError.isTransient (resultOf noHosts r) →
      ∀ c ∈ r, c.Failed :=
    fun r hr hpassing _ =>
      failed_of_resultOf_eq (hrounds r hr) (exists_transport_of_isPassing hpassing)
  cases answer with
  | none =>
    have hall := (hending.unanswered rfl).2.1
    exact .inr ⟨rfl, fun r hr => hfailed r hr (hall _ (List.mem_map_of_mem hr))⟩
  | some result =>
    obtain ⟨hlast, -⟩ := hending.answered result rfl
    rcases List.eq_nil_or_concat rounds with rfl | ⟨before, last, rfl⟩
    · cases hlast
    · have hpassing := hending.passing
      rw [List.concat_eq_append] at hlast hpassing hfailed ⊢
      rw [List.map_append, List.map_singleton, List.getLast?_concat] at hlast
      rw [List.map_append, List.map_singleton, List.dropLast_concat] at hpassing
      exact .inl ⟨before, last, rfl, hlast.symm, fun r hr =>
        hfailed r (List.mem_append_left _ hr) (hpassing _ (List.mem_map_of_mem hr))⟩

/-- **A request that may be sent again goes on until a host replies.** It goes over the hosts in rounds,
as many as the policy has, and a host that does not serve it leaves it to the next one or the next round.
The result is the first reply, which is from the last host asked. A transport error comes only behind all
rounds of the policy, and in each of them no host that was asked served the request; all hosts were asked
in the rounds in which no reply was cut off before the last host, and in no other ones. Any other error
says that there is no request for a host.

A policy without a limit is followed for so many rounds as the client is patient. -/
theorem reply_iff_replied (client : Client) (network : Network σ) (now : Int) (request : Request) (s : σ)
    (h : request.delivery = .retryable) :
    let run := (client.deliver network.journaled now request).run (s, [])
    ∃ rounds, client.Course network now request s rounds run.2 ∧
      rounds.length ≤ client.look client.retry ∧
      run.2.2.length ≤ client.look client.retry * client.hosts.length ∧
      (∀ c ∈ rounds.flatten.dropLast, c.Failed) ∧
      (∀ reply, run.1 = .ok reply ↔ ∃ c ∈ rounds.flatten, c.outcome = .ok (.replied reply)) ∧
      (∀ detail, run.1 = .error (.transport detail) → rounds.length = client.look client.retry ∧
        ∀ r ∈ rounds, (∀ c ∈ r, c.Failed) ∧ (r.map (·.host) = client.hosts ↔
          ∀ c ∈ r, c.CutOff → r.length = client.hosts.length)) ∧
      ∀ e, run.1 = .error e → (∃ detail, e = .transport detail) ∨
        ∃ c ∈ rounds.flatten, c.outcome = .error e := by
  intro run
  obtain ⟨rounds, answer, hcourse, hending, hanswer⟩ := exists_course client network now request s
  have hrounds := hcourse.isRound
  rw [h] at hending hrounds
  have hlooked : rounds.length ≤ client.look client.retry := List.length_map _ ▸ hending.looked
  have hsent : run.2.2.length ≤ client.look client.retry * client.hosts.length := by
    rw [hcourse.journal]
    refine Nat.le_trans (List.length_filterMap_le _ _) (Nat.le_trans (length_flatten_le fun r hr => ?_)
      (Nat.mul_le_mul_right _ hlooked))
    simpa using (hrounds r hr).inOrder.length_le
  have hcovers : ∀ r ∈ rounds, (∀ c ∈ r, c.Failed) → (r.map (·.host) = client.hosts ↔
      ∀ c ∈ r, c.CutOff → r.length = client.hosts.length) :=
    fun r hr hfailed => (hrounds r hr).covers_iff hfailed fun c hc =>
      exists_transmission_of_failed hcourse.meets (List.mem_flatten_of_mem hr hc) (hfailed c hc)
  refine ⟨rounds, hcourse, hlooked, hsent, ?_⟩
  rcases rounds_cases hrounds hending with ⟨before, last, rfl, rfl, hbefore⟩ | ⟨rfl, hall⟩
  · have hlast : IsRound .retryable client.hosts last := hrounds last (by simp)
    have hrun : run.1 = resultOf noHosts last := hanswer
    rw [hrun]
    refine ⟨fun c => failed_of_mem_dropLast hbefore hlast,
      fun reply => resultOf_last_eq_ok_iff hbefore hlast, fun detail hfails => ?_, fun e hfails => ?_⟩
    · have hlength := length_eq_look hending fun result hresult => by
        rw [← Option.some.inj hresult, hfails]
        exact ⟨_, rfl, rfl⟩
      refine ⟨List.length_map _ ▸ hlength, fun r hr => ?_⟩
      have hfailed : ∀ c ∈ r, c.Failed := by
        rcases List.mem_append.1 hr with hbefore' | hr'
        · exact hbefore r hbefore'
        · obtain rfl := List.mem_singleton.1 hr'
          exact fun c hc => failed_of_resultOf_eq hlast ⟨detail, hfails⟩ hc
      exact ⟨hfailed, hcovers r hr hfailed⟩
    · refine (exists_transport_of_resultOf hfails).imp_right ?_
      rintro ⟨c, hc, houtcome⟩
      exact ⟨c, List.mem_flatten_of_mem (by simp) hc, houtcome⟩
  · have hfailed : ∀ c ∈ rounds.flatten, c.Failed := fun c hc =>
      let ⟨r, hr, hc⟩ := List.mem_flatten.1 hc
      hall r hr c hc
    have hrun : run.1 = .error (.transport "Request failed: no host replied") := hanswer
    rw [hrun]
    refine ⟨fun c hc => hfailed c (List.dropLast_subset _ hc), fun reply => ⟨nofun, ?_⟩,
      fun detail _ => ⟨List.length_map _ ▸ length_eq_look hending nofun, fun r hr =>
        ⟨hall r hr, hcovers r hr (hall r hr)⟩⟩, fun e hfails => .inl ⟨_, (Except.error.inj hfails).symm⟩⟩
    rintro ⟨c, hc, hreplied⟩
    exact absurd hreplied (not_replied_of_failed (hfailed c hc) reply)

theorem second_host_replies_behind_timeout :
    let run := (ofReplicas.deliver (firstHostTo (.timedOut "30 s")).journaled 0 (.ofCall .ping)).run ((), [])
    run.1 = .ok ⟨200, []⟩ ∧ ∃ rounds,
      ofReplicas.Course (firstHostTo (.timedOut "30 s")) 0 (.ofCall .ping) () rounds run.2 ∧
        ∃ c ∈ rounds.flatten, c.outcome = .ok (.replied ⟨200, []⟩) := by
  intro run
  obtain ⟨rounds, hcourse, -, -, -, hreplied, -⟩ :=
    reply_iff_replied ofReplicas (firstHostTo (.timedOut "30 s")) 0 (.ofCall .ping) () rfl
  have hrun : run.1 = .ok ⟨200, []⟩ := by decide +kernel
  exact ⟨hrun, rounds, hcourse, (hreplied _).1 hrun⟩

/-- A reply that is cut off keeps the request from the hosts behind: it is lost in each round, although
there is a host that replies. -/
theorem second_host_is_not_asked_behind_cutOff :
    let network := firstHostTo (.cutOff "the body ends early")
    let run := (ofReplicas.deliver network.journaled 0 (.ofCall .ping)).run ((), [])
    run.1 = .error (.transport "Failed to read response: the body ends early") ∧
      hostsOf run.2.2 = [some (.name "a.example"), some (.name "a.example")] ∧
      ∃ host ∈ ofReplicas.hosts,
        ((ofReplicas.transmit network 0 (.ofCall .ping) host).run ()).1 = .ok (.replied ⟨200, []⟩) := by
  refine ⟨by decide +kernel, by decide +kernel, ?_⟩
  exact ⟨ofReplicas.hosts[1], by simp [ofReplicas], by decide +kernel⟩

end Client

end SiteSearch.Remote
