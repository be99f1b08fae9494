import IdlBuild.Proofs.Translators.Fresh

/-!
# What an accepted response answers

Between the request that is posted and the response that is accepted there may be redirects. The
accepted response answers the last request of the chain. That one still posts the bundle when every
redirect on the way keeps requests as they are, and asks for a page without sending anything when one
of them does not (`accepted_sourced`).
-/

namespace IdlBuild.Http

variable {σ : Type} {network : Network σ} {limit : Option Nat}

/-! ### One redirect -/

theorem redirected_eq_some {request next : Request} {response : Response}
    (h : redirected? request response = some next) :
    isRedirect response.status = true ∧
      next = if keepsRequest response.status then { request with url := next.url }
        else ⟨.get, next.url, none, none⟩ := by
  unfold redirected? at h
  by_cases hredirect : isRedirect response.status = true
  · refine ⟨hredirect, ?_⟩
    rw [hredirect] at h
    simp only [Bool.not_true, Bool.false_eq_true, if_false] at h
    split at h
    · cases h
    · split at h
      · cases h
      · split_ifs at h with hurl hkeeps
        · cases h
          rw [if_pos hkeeps]
        · cases h
          rw [if_neg hkeeps]
  · simp [hredirect] at h

/-! ### Chains of redirects -/

/-- A request that is answered by some redirects, one after another, and then by a final response. -/
inductive Followed (network : Network σ) (limit : Option Nat) :
    Nat → σ → Request → List (Request × Response) → Request → Response → σ → Prop where
  | answered {redirects : Nat} {before after : σ} {request : Request} {response : Response}
      (hanswer : network request limit before = (.response response, after))
      (hfinal : redirected? request response = none) :
      Followed network limit redirects before request [] request response after
  | redirected {redirects : Nat} {before middle after : σ} {request next last : Request}
      {response final : Response} {hops : List (Request × Response)}
      (hanswer : network request limit before = (.response response, middle))
      (hnext : redirected? request response = some next)
      (hweb : next.url.isRequestable = true)
      (hrest : Followed network limit redirects middle next hops last final after) :
      Followed network limit (redirects + 1) before request ((request, response) :: hops) last final
        after

theorem followed_of_send {redirects : Nat} {before after : σ} {request last : Request}
    {final : Response}
    (h : send network limit redirects request before = (.ok (last, final), after)) :
    ∃ hops, Followed network limit redirects before request hops last final after := by
  fun_induction send network limit redirects request before with
  | case1 => cases h
  | case2 redirects request before response middle hanswer hfinal =>
    cases h
    exact ⟨[], .answered hanswer hfinal⟩
  | case3 => cases h
  | case4 request before response middle hanswer next hnext redirects hweb ih =>
    obtain ⟨hops, hrest⟩ := ih h
    exact ⟨_, .redirected hanswer hnext hweb hrest⟩
  | case5 => cases h

namespace Followed

variable {redirects : Nat} {before after : σ} {request last : Request} {final : Response}
  {hops : List (Request × Response)}

theorem length_le (h : Followed network limit redirects before request hops last final after) :
    hops.length ≤ redirects := by
  induction h with
  | answered => exact Nat.zero_le _
  | redirected hanswer hnext hweb hrest ih =>
    rw [List.length_cons]
    omega

theorem redirects_hops (h : Followed network limit redirects before request hops last final after) :
    ∀ hop ∈ hops, isRedirect hop.2.status = true := by
  induction h with
  | answered => simp
  | redirected hanswer hnext hweb hrest ih =>
    intro hop hhop
    rcases List.mem_cons.1 hhop with rfl | hhop
    · exact (redirected_eq_some hnext).1
    · exact ih hop hhop

/-- The final response answers the last request. -/
theorem answers (h : Followed network limit redirects before request hops last final after) :
    ∃ state, network last limit state = (.response final, after) ∧ redirected? last final = none := by
  induction h with
  | answered hanswer hfinal => exact ⟨_, hanswer, hfinal⟩
  | redirected hanswer hnext hweb hrest ih => exact ih

/-- Redirects that keep the request lead to the request for another address. -/
theorem kept (h : Followed network limit redirects before request hops last final after)
    (hkeeps : ∀ hop ∈ hops, keepsRequest hop.2.status = true) :
    last = { request with url := last.url } := by
  induction h with
  | answered => rfl
  | @redirected redirects before middle after request next last response final hops hanswer hnext
      hweb hrest ih =>
    have hfirst : keepsRequest response.status = true := hkeeps (request, response) (by simp)
    have hsame := (redirected_eq_some hnext).2
    rw [if_pos hfirst] at hsame
    have hlast := ih fun hop hhop => hkeeps hop (List.mem_cons_of_mem _ hhop)
    rw [hsame] at hlast
    exact hlast

/-- After one redirect that does not keep it nothing is sent any more. -/
theorem lost (h : Followed network limit redirects before request hops last final after)
    (hloses : ∃ hop ∈ hops, keepsRequest hop.2.status = false) :
    last = ⟨.get, last.url, none, none⟩ := by
  induction h with
  | answered => simp at hloses
  | @redirected redirects before middle after request next last response final hops hanswer hnext
      hweb hrest ih =>
    by_cases hothers : ∃ hop ∈ hops, keepsRequest hop.2.status = false
    · exact ih hothers
    · have hkeeps : ∀ hop ∈ hops, keepsRequest hop.2.status = true := by
        intro hop hhop
        rw [← Bool.not_eq_false]
        exact fun hfalse => hothers ⟨hop, hhop, hfalse⟩
      obtain ⟨hop, hhop, hfalse⟩ := hloses
      rcases List.mem_cons.1 hhop with rfl | hhop
      · have hlost := (redirected_eq_some hnext).2
        rw [if_neg (by simp [hfalse])] at hlost
        have hlast := hrest.kept hkeeps
        rw [hlost] at hlast
        exact hlast
      · exact absurd ⟨hop, hhop, hfalse⟩ hothers

end Followed

end IdlBuild.Http

namespace IdlBuild.Service

open Http (Followed)
open Text (Bytes)

variable {σ : Type}

/-- Where accepted output comes from: the bundle was posted to the address, and the response that is
stored ends a chain of redirects. It answers a request that posts the bundle, unless one of these
redirects drops what is sent. -/
structure Sourced (network : Http.Network σ) (address : String) (limit : Option Nat)
    (task : TranslatorTask) (w w' : Workspace σ) (bundle : List BundledFile)
    (hops : List (Http.Request × Http.Response)) (request : Http.Request)
    (response : Http.Response) : Prop where
  stored : Stored network address limit task w w' bundle request response
  followed : ∃ url, Http.requestable address = .ok url ∧
    Followed network limit Http.redirectLimit w.callees (.postForm url (namedValues bundle)) hops
      request response w'.callees
  within : hops.length ≤ Http.redirectLimit
  redirects : ∀ hop ∈ hops, Http.isRedirect hop.2.status = true
  answers : ∃ state, network request limit state = (.response response, w'.callees)
  carried : (∀ hop ∈ hops, Http.keepsRequest hop.2.status = true) →
    request = .postForm request.url (namedValues bundle)
  dropped : (∃ hop ∈ hops, Http.keepsRequest hop.2.status = false) →
    request = ⟨.get, request.url, none, none⟩

/-- Accepted output answers the bundle when no redirect on the way is a 301, 302 or 303; after one
of these it answers a request that has sent nothing. -/
theorem accepted_sourced (network : Http.Network σ) (address : String) (limit : Option Nat)
    (task : TranslatorTask) (w w' : Workspace σ)
    (h : ((translator network address limit).carryOut task).runIn w = (.ok (), w')) :
    ∃ bundle hops request response,
      Sourced network address limit task w w' bundle hops request response := by
  obtain ⟨bundle, request, response, hstored⟩ := stored_of_ok h
  have hposted := hstored.answered
  unfold Http.post at hposted
  cases haddress : Http.requestable address with
  | error fault =>
    rw [haddress] at hposted
    cases hposted
  | ok url =>
    rw [haddress] at hposted
    obtain ⟨hops, hfollowed⟩ := Http.followed_of_send hposted
    obtain ⟨state, hanswer, -⟩ := hfollowed.answers
    exact ⟨bundle, hops, request, response, hstored, ⟨url, haddress, hfollowed⟩,
      hfollowed.length_le, hfollowed.redirects_hops, ⟨state, hanswer⟩, hfollowed.kept,
      hfollowed.lost⟩

/-! #### Services that have moved -/

/-- A service that has moved and keeps what it is asked. What is asked at the old address is
redirected with some status; at the new one there is an array, whatever is asked. -/
def moved (status : Nat) : Http.Network (List Http.Request) := fun request _ asked =>
  if request.url.text = "http://[::1]/" then
    (.response ⟨status, [("Location", "/v2")], [], true⟩, asked ++ [request])
  else (.response ⟨200, [], [0x5B, 0x31, 0x5D], true⟩, asked ++ [request])

def askMoved (status : Nat) : Except Failure Unit × Workspace (List Http.Request) :=
  ((translator (moved status) "http://[::1]/" none).carryOut Translator.oneTask).runIn
    ⟨Translator.oneFile, .empty, []⟩

theorem moved_sourced :
    (askMoved 307).1 = .ok () ∧ ∃ bundle hops request response,
      Sourced (moved 307) "http://[::1]/" none Translator.oneTask ⟨Translator.oneFile, .empty, []⟩
        (askMoved 307).2 bundle hops request response := by
  have hok : (askMoved 307).1 = .ok () := by decide +kernel
  have hrun : askMoved 307 = (.ok (), (askMoved 307).2) := by
    rw [← hok]
  exact ⟨hok, accepted_sourced (moved 307) "http://[::1]/" none Translator.oneTask
    ⟨Translator.oneFile, .empty, []⟩ (askMoved 307).2 hrun⟩

/-- The body that an answer brings, if it is a response. -/
def bodyOf : Http.Answer → Option Bytes
  | .response response => some response.body
  | .none _ => none

/-- After a redirect of status 302 the answer to a request without a body is taken for the
translation; what was posted has been answered with nothing. -/
theorem moved_unsourced :
    (askMoved 302).1 = .ok () ∧
      (askMoved 302).2.files.readFile Translator.oneTask.jsonFile = .ok [0x5B, 0x31, 0x5D] ∧
      (askMoved 302).2.callees.map (fun request =>
          (request.method, request.body.isSome, bodyOf (moved 302 request none []).1))
        = [(.post, true, some []), (.get, false, some [0x5B, 0x31, 0x5D])] := by
  refine ⟨?_, ?_, ?_⟩
  · decide +kernel
  · decide +kernel
  · decide +kernel

end IdlBuild.Service
