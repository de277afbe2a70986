import SiteSearch.Engine.Remote.Client
import SiteSearch.Proofs.Connection.Attempts

/-!
# Rounds over the hosts

A client asks its hosts in turn. What it learns of each is a `Contact`, and `Meets` says that contacts
follow one another over a network. In one round the hosts are asked in their order up to the first that
settles the request (`IsRound`), and what a client does altogether is a list of rounds (`exists_rounds`).

`Network.journaled` writes down what is sent: for each contact its message, if the message to that host
can be sent at all (`Client.journal_of_meets`).
-/

namespace SiteSearch.Remote

variable {σ η : Type} {delivery : Delivery} {last : EngineError}
variable {transmit : η → StateM σ (Except EngineError Transmission)}

/-- A host that was asked, with what became of the request there, or why there was no request for it. -/
structure Contact (η : Type) where
  host : η
  outcome : Except EngineError Transmission

/-- Contacts that lead from one state of the network to another. -/
def Meets (transmit : η → StateM σ (Except EngineError Transmission)) : σ → List (Contact η) → σ → Prop
  | s, [], s' => s' = s
  | s, c :: contacts, s' => ∃ s₁, (transmit c.host).run s = (c.outcome, s₁) ∧ Meets transmit s₁ contacts s'

/-- What a request comes to where no other host is asked. -/
def Transmission.result : Transmission → Except EngineError Reply
  | replied reply => .ok reply
  | notConnected detail => .error (.transport ("Failed to connect: " ++ detail))
  | timedOut detail => .error (.transport ("Request timeout: " ++ detail))
  | broken detail => .error (.transport ("Request failed: " ++ detail))
  | cutOff detail => .error (.transport ("Failed to read response: " ++ detail))

/-- Whether the next host is asked after this one. -/
def Transmission.passesOn (delivery : Delivery) : Transmission → Bool
  | replied _ | cutOff _ => false
  | notConnected _ => true
  | timedOut _ | broken _ => delivery = .retryable

/-- A transmission goes on to the next host with the error that it comes to, or it settles the request. -/
theorem Transmission.verdict_eq (t : Transmission) (delivery : Delivery) :
    (t.passesOn delivery = true ∧ ∃ e, t.result = .error e ∧ t.verdict delivery = .goOn e) ∨
      t.passesOn delivery = false ∧ t.verdict delivery = .settled t.result := by
  cases t <;> cases delivery <;> simp [passesOn, verdict, Delivery.afterLoss, result]

namespace Contact

/-- What a request comes to at a host. -/
def result (c : Contact η) : Except EngineError Reply := c.outcome.bind Transmission.result

/-- The next host is asked after this one. -/
def PassesOn (delivery : Delivery) (c : Contact η) : Prop :=
  ∃ t, c.outcome = .ok t ∧ t.passesOn delivery = true

/-- There was no connection to the host. -/
def Unconnected (c : Contact η) : Prop := ∃ detail, c.outcome = .ok (.notConnected detail)

end Contact

/-- What the contacts of a round come to; `last` is what it would come to without any. -/
def resultOf (last : EngineError) (contacts : List (Contact η)) : Except EngineError Reply :=
  (contacts.getLast?.map Contact.result).getD (.error last)

/-- The hosts are asked in their order, and up to the last one or one that settles the request. -/
structure IsRound (delivery : Delivery) (hosts : List η) (contacts : List (Contact η)) : Prop where
  inOrder : contacts.map (·.host) <+: hosts
  passed : ∀ c ∈ contacts.dropLast, c.PassesOn delivery
  complete : contacts.map (·.host) = hosts ∨ ∃ c, contacts.getLast? = some c ∧ ¬ c.PassesOn delivery

/-! ## One round -/

theorem mem_dropLast_or_last {c : Contact η} {contacts : List (Contact η)} (h : c ∈ contacts) :
    c ∈ contacts.dropLast ∨ contacts.getLast? = some c := by
  have hne : contacts ≠ [] := List.ne_nil_of_mem h
  rw [← List.dropLast_concat_getLast hne, List.mem_append, List.mem_singleton] at h
  rw [List.getLast?_eq_some_getLast hne, Option.some.injEq]
  exact h.imp_right Eq.symm

theorem resultOf_cons {c : Contact η} {e : EngineError} (h : c.result = .error e)
    (contacts : List (Contact η)) : resultOf last (c :: contacts) = resultOf e contacts := by
  cases contacts with
  | nil => simp [resultOf, h]
  | cons next contacts => simp [resultOf, List.getLast?_eq_some_getLast]

theorem IsRound.of_settled {host : η} {hosts : List η} {c : Contact η} (hhost : c.host = host)
    (h : ¬ c.PassesOn delivery) : IsRound delivery (host :: hosts) [c] where
  inOrder := by simp [hhost]
  passed := by simp
  complete := .inr ⟨c, rfl, h⟩

theorem IsRound.cons {host : η} {hosts : List η} {c : Contact η} {contacts : List (Contact η)}
    (hhost : c.host = host) (hpasses : c.PassesOn delivery) (h : IsRound delivery hosts contacts) :
    IsRound delivery (host :: hosts) (c :: contacts) where
  inOrder := by simpa [hhost] using h.inOrder
  passed := by
    rcases contacts with _ | ⟨next, contacts⟩
    · simp
    · rw [List.dropLast_cons_cons]
      exact List.forall_mem_cons.2 ⟨hpasses, h.passed⟩
  complete := by
    rcases h.complete with hall | ⟨other, hlast, hsettles⟩
    · exact .inl (by simp [hhost, hall])
    · rcases contacts with _ | ⟨next, contacts⟩
      · cases hlast
      · exact .inr ⟨other, by rw [List.getLast?_cons_cons, hlast], hsettles⟩

/-- What a host settles is what the round comes to. -/
theorem run_round_of_settled {host : η} {hosts : List η} {s s₁ : σ} {t : Transmission}
    {result : Except EngineError Reply} (h : (transmit host).run s = (.ok t, s₁))
    (hverdict : t.verdict delivery = .settled result) :
    (round transmit delivery last (host :: hosts)).run s = (result, s₁) := by
  rw [round, StateT.run_bind, h]
  simp only [bind, hverdict]
  rfl

theorem run_round_of_goOn {host : η} {hosts : List η} {s s₁ : σ} {t : Transmission} {e : EngineError}
    (h : (transmit host).run s = (.ok t, s₁)) (hverdict : t.verdict delivery = .goOn e) :
    (round transmit delivery last (host :: hosts)).run s = (round transmit delivery e hosts).run s₁ := by
  rw [round, StateT.run_bind, h]
  simp only [bind, hverdict]

/-- A host that there is no request for ends the round. -/
theorem run_round_of_error {host : η} {hosts : List η} {s s₁ : σ} {e : EngineError}
    (h : (transmit host).run s = (.error e, s₁)) :
    (round transmit delivery last (host :: hosts)).run s = (.error e, s₁) := by
  rw [round, StateT.run_bind, h]
  rfl

/-- A round is a list of contacts, one for each host that is asked. -/
theorem exists_contacts (transmit : η → StateM σ (Except EngineError Transmission)) (delivery : Delivery)
    (hosts : List η) : ∀ (last : EngineError) (s : σ),
    ∃ contacts, Meets transmit s contacts ((round transmit delivery last hosts).run s).2 ∧
      IsRound delivery hosts contacts ∧
      ((round transmit delivery last hosts).run s).1 = resultOf last contacts := by
  induction hosts with
  | nil =>
    intro last s
    exact ⟨[], rfl, ⟨List.prefix_rfl, by simp, .inl rfl⟩, rfl⟩
  | cons host hosts ih =>
    intro last s
    obtain ⟨outcome, s₁, houtcome⟩ : ∃ outcome s₁, (transmit host).run s = (outcome, s₁) := ⟨_, _, rfl⟩
    cases outcome with
    | error e =>
      rw [run_round_of_error houtcome]
      refine ⟨[⟨host, .error e⟩], ⟨s₁, houtcome, rfl⟩, .of_settled rfl ?_, rfl⟩
      rintro ⟨t, ⟨⟩, -⟩
    | ok t =>
      rcases t.verdict_eq delivery with ⟨hpasses, e, hresult, hverdict⟩ | ⟨hsettles, hverdict⟩
      · rw [run_round_of_goOn houtcome hverdict]
        obtain ⟨contacts, hmeets, hround, hcomes⟩ := ih e s₁
        refine ⟨⟨host, .ok t⟩ :: contacts, ⟨s₁, houtcome, hmeets⟩, hround.cons rfl ⟨t, rfl, hpasses⟩, ?_⟩
        have hfailed : Contact.result ⟨host, .ok t⟩ = .error e := hresult
        rw [hcomes, resultOf_cons hfailed]
      · rw [run_round_of_settled houtcome hverdict]
        refine ⟨[⟨host, .ok t⟩], ⟨s₁, houtcome, rfl⟩, .of_settled rfl ?_, rfl⟩
        rintro ⟨_, ⟨⟩, htrue⟩
        rw [hsettles] at htrue
        cases htrue

/-! ## Rounds -/

theorem Meets.append {contacts others : List (Contact η)} {s s₁ s₂ : σ}
    (h : Meets transmit s contacts s₁) (hmore : Meets transmit s₁ others s₂) :
    Meets transmit s (contacts ++ others) s₂ := by
  induction contacts generalizing s with
  | nil =>
    obtain rfl : s₁ = s := h
    exact hmore
  | cons c contacts ih =>
    obtain ⟨s', hcontact, hrest⟩ := h
    exact ⟨s', hcontact, ih hrest⟩

/-- Attempts that are rounds, without time passing between them. -/
theorem rounds_of_tries {policy : RetryPolicy} {again : EngineError → Bool} {hosts : List η}
    {results : List (Except EngineError Reply)} {pause : Duration} {made : Nat} {s s' : σ}
    (h : policy.Tries again (fun _ => pure ()) (round transmit delivery last hosts) pause made s results
      s') :
    ∃ rounds : List (List (Contact η)), Meets transmit s rounds.flatten s' ∧
      (∀ r ∈ rounds, IsRound delivery hosts r) ∧ results = rounds.map (resultOf last) := by
  induction results generalizing pause made s with
  | nil => exact ⟨[], h, by simp, rfl⟩
  | cons result results ih =>
    obtain ⟨s₁, hattempt, hrest⟩ := h
    obtain ⟨contacts, hmeets, hround, hresult⟩ := exists_contacts transmit delivery hosts last s
    rw [hattempt] at hmeets hresult
    obtain rfl : result = resultOf last contacts := hresult
    split at hrest
    · obtain ⟨rfl, rfl⟩ := hrest
      exact ⟨[contacts], by simpa using hmeets, by simpa using hround, rfl⟩
    · obtain ⟨rounds, hmore, hrounds, rfl⟩ := ih hrest
      exact ⟨contacts :: rounds, hmeets.append hmore, List.forall_mem_cons.2 ⟨hround, hrounds⟩, rfl⟩

/-- What becomes of a request is a list of rounds, as many as the policy asks for. -/
theorem exists_rounds (transmit : η → StateM σ (Except EngineError Transmission)) (delivery : Delivery)
    (policy : RetryPolicy) (hosts : List η) (look : Nat) (s : σ) :
    ∃ rounds : List (List (Contact η)),
      Meets transmit s rounds.flatten
        ((deliver transmit (fun _ => pure ()) delivery policy hosts look).run s).2 ∧
      (∀ r ∈ rounds, IsRound delivery hosts r) ∧
      (delivery.policy policy).Ending EngineError.isTransient 0 look (rounds.map (resultOf noHosts))
        ((deliver transmit (fun _ => pure ()) delivery policy hosts look).run s).1 := by
  obtain ⟨results, htries, hending⟩ := RetryPolicy.exists_tries (delivery.policy policy)
    EngineError.isTransient (fun _ => pure ()) (round transmit delivery noHosts hosts) look
    (delivery.policy policy).firstPause 0 s
  obtain ⟨rounds, hmeets, hrounds, rfl⟩ := rounds_of_tries htries
  exact ⟨rounds, hmeets, hrounds, hending⟩

/-! ## Journal -/

/-- A network that writes down what it is given and what becomes of it. -/
def Network.journaled (network : Network σ) : Network (σ × List (Message × Transmission)) :=
  fun message s =>
    let (t, s₁) := network message s.1
    (t, s₁, s.2 ++ [(message, t)])

namespace Client

variable {client : Client} {network : Network σ} {now : Int} {request : Request}

/-- What a contact puts on the wire. -/
def sent? (client : Client) (now : Int) (request : Request) (c : Contact Url) :
    Option (Message × Transmission) :=
  match client.message? now request c.host, c.outcome with
  | some message, .ok t => if message.isSendable then some (message, t) else none
  | _, _ => none

theorem run_transmit_journaled {host : Url} {outcome : Except EngineError Transmission}
    {s s₁ : σ × List (Message × Transmission)}
    (h : (client.transmit network.journaled now request host).run s = (outcome, s₁)) :
    (client.transmit network now request host).run s.1 = (outcome, s₁.1) ∧
      s₁.2 = s.2 ++ (client.sent? now request ⟨host, outcome⟩).toList := by
  unfold transmit at h ⊢
  unfold sent?
  cases hmessage : client.message? now request host with
  | none =>
    rw [hmessage] at h
    obtain ⟨rfl, rfl⟩ := Prod.mk.inj h
    exact ⟨rfl, by simp⟩
  | some message =>
    rw [hmessage] at h
    cases hsendable : message.isSendable with
    | true =>
      simp only [hsendable, if_true] at h ⊢
      obtain ⟨rfl, rfl⟩ := Prod.mk.inj h
      exact ⟨rfl, by simp [hsendable]⟩
    | false =>
      simp only [hsendable, Bool.false_eq_true, if_false] at h ⊢
      obtain ⟨rfl, rfl⟩ := Prod.mk.inj h
      exact ⟨rfl, by simp [hsendable]⟩

/-- A client sends one message for each contact, if it can be sent at all. -/
theorem journal_of_meets {contacts : List (Contact Url)} {s s' : σ × List (Message × Transmission)}
    (h : Meets (client.transmit network.journaled now request) s contacts s') :
    Meets (client.transmit network now request) s.1 contacts s'.1 ∧
      s'.2 = s.2 ++ contacts.filterMap (client.sent? now request) := by
  induction contacts generalizing s with
  | nil =>
    obtain rfl : s' = s := h
    exact ⟨rfl, by simp⟩
  | cons c contacts ih =>
    obtain ⟨s₁, hcontact, hrest⟩ := h
    obtain ⟨hplain, hjournal⟩ := run_transmit_journaled hcontact
    obtain ⟨hmeets, hmore⟩ := ih hrest
    refine ⟨⟨s₁.1, hplain, hmeets⟩, ?_⟩
    rw [hmore, hjournal, List.append_assoc, List.filterMap_cons]
    cases client.sent? now request c <;> rfl

end Client

end SiteSearch.Remote
