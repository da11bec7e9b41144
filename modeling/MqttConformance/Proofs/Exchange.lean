import MqttConformance.Http.Client
import MqttConformance.Proofs.Effect

/-! What becomes of a request. A request leaves the client if its URL has a host and a scheme that
requests are sent to; it is then one action, and the services answer it. A request that does not
leave fails without any action. -/

namespace MqttConformance.Http.Request

open Effect (Ends)

section

variable (r : Request) (services : Services) (n : Nat)

/-- Whether a request leaves the client. -/
def leaves : Bool := r.url.hasHost && (r.url.scheme == "http" || r.url.scheme == "https")

/-- The action that a request is, if it leaves. -/
def sends : List Action := if r.leaves then [.send r] else []

/-- What becomes of a request with `n` requests before it. -/
def exchange : Except Failure Response :=
  if r.leaves then services.answer n r else .error (.scheme r.url)

/-- What becomes of a request that has to succeed. -/
def accepted : Except ClientError Response :=
  match r.exchange services n with
  | .error failure => .error (.sending failure)
  | .ok response =>
    if response.status.isSuccess then .ok response else .error (.refused r.api response.status)

end

variable {r : Request} {services : Services} {world : World} {n : Nat} {response : Response}
variable {failure : Failure} {α : Type}

theorem leaves_of_exchange (h : r.exchange services n = .ok response) : r.leaves = true := by
  unfold exchange at h
  split at h
  · assumption
  · cases h

theorem sends_of_leaves (h : r.leaves = true) : r.sends = [.send r] := if_pos h

theorem accepted_of_failed (h : r.exchange services n = .error failure) :
    r.accepted services n = .error (.sending failure) := by
  rw [accepted, h]

theorem accepted_of_refused (h : r.exchange services n = .ok response)
    (hs : response.status.isSuccess = false) :
    r.accepted services n = .error (.refused r.api response.status) := by
  simp [accepted, h, hs]

theorem accepted_eq_ok : r.accepted services n = .ok response ↔
    r.exchange services n = .ok response ∧ response.status.isSuccess = true := by
  constructor
  · intro h
    unfold accepted at h
    split at h
    · cases h
    · next hr =>
      split at h
      · next hs => cases h; exact ⟨hr, hs⟩
      · cases h
  · rintro ⟨hr, hs⟩
    simp [accepted, hr, hs]

theorem accepted_eq_error {error : ClientError} : r.accepted services n = .error error ↔
    (∃ failure, r.exchange services n = .error failure ∧ error = .sending failure) ∨
      ∃ response, r.exchange services n = .ok response ∧ response.status.isSuccess = false ∧
        error = .refused r.api response.status := by
  constructor
  · intro h
    unfold accepted at h
    split at h
    · next failure hr => cases h; exact .inl ⟨failure, hr, rfl⟩
    · next response hr =>
      split at h
      · cases h
      · next hs => cases h; exact .inr ⟨response, hr, by simpa using hs, rfl⟩
  · rintro (⟨failure, hr, rfl⟩ | ⟨response, hr, hs, rfl⟩)
    · exact accepted_of_failed hr
    · exact accepted_of_refused hr hs

/-! ## The effects -/

variable {files : FileSystem}

/-- With a host, the scheme decides whether a request leaves. -/
theorem answered_ends (hhost : r.url.hasHost = true) (hn : world.sent = n)
    (hf : world.files = files) :
    r.answered.Ends services world (.done (r.exchange services n)) r.sends files := by
  subst hn hf
  unfold answered exchange sends leaves
  by_cases h : r.url.scheme = "http" ∨ r.url.scheme = "https"
  · exact ⟨[], by simp [h, hhost, Effect.run_bind]⟩
  · exact ⟨[], by simp [h, hhost]⟩

/-- A request is logged, sent and logged again. -/
theorem send_ends (hn : world.sent = n) (hf : world.files = files) :
    r.send.Ends services world (.done (r.exchange services n)) r.sends files := by
  unfold send
  cases hhost : r.url.hasHost with
  | false =>
    have hl : r.leaves = false := by simp [leaves, hhost]
    simpa [exchange, sends, hl] using Ends.pure hf
  | true =>
    refine .bind_quiet (.report hf) fun world₁ hn₁ hf => ?_
    refine (answered_ends hhost (hn₁.trans hn) hf).bind_then_quiet fun _ hf => ?_
    cases r.exchange services n with
    | ok response => exact .bind_quiet (.report hf) fun _ _ hf => .pure hf
    | error failure => exact .bind_quiet (.report hf) fun _ _ hf => .pure hf

theorem sendChecked_ends (hn : world.sent = n) (hf : world.files = files) :
    r.sendChecked.Ends services world (.ofExcept (r.accepted services n)) r.sends files := by
  unfold sendChecked
  refine (send_ends hn hf).bind_then_quiet fun world₁ hf => ?_
  refine .bind_quiet (.passed hf) fun world₂ _ hf => ?_
  rw [Log.passResult_fst]
  cases hr : r.exchange services n with
  | error failure =>
    rw [accepted_of_failed hr]
    exact .fail hf
  | ok response =>
    cases hs : response.status.isSuccess with
    | true =>
      rw [accepted_eq_ok.2 ⟨hr, hs⟩]
      simpa [hs, Outcome.ofExcept] using Ends.pure hf
    | false =>
      rw [accepted_of_refused hr hs]
      simp only [hs]
      exact .bind_quiet (.report hf) fun _ _ hf => .fail hf

end MqttConformance.Http.Request
