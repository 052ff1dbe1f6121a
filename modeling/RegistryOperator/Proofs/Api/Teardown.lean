import Mathlib.Data.List.TakeWhile
import RegistryOperator.Api.Dependents
import RegistryOperator.Cluster.Store
import RegistryOperator.Proofs.Program.Conversation

/-! The teardown of the objects that make the registry run, at a server that may take its time with
it: an object whose deletion was accepted stays until its own finalizers are cleared. What is at
the server is followed through the whole conversation, while requests are served and while others
act in between. The teardown is reported as complete once the deployment is gone. Whether the
service is gone is never asked, and so it may still be leaving. -/

namespace RegistryOperator

/-- How an object is at the server. -/
inductive Presence
  | absent
  /-- Its deletion was accepted, and finalizers of its own hold it. -/
  | leaving
  | standing
deriving DecidableEq, Repr

namespace Presence

/-- How far an object is from being gone. -/
def rank : Presence → Nat
  | .absent => 0
  | .leaving => 1
  | .standing => 2

theorem eq_absent {p q : Presence} (h : p.rank ≤ q.rank) (hq : q = .absent) : p = .absent := by
  subst hq
  cases p with
  | absent => rfl
  | _ => exact absurd h (by decide)

theorem ne_standing {p q : Presence} (h : p.rank ≤ q.rank) (hq : q ≠ .standing) :
    p ≠ .standing := by
  rintro rfl
  cases q with
  | standing => exact hq rfl
  | _ => exact absurd h (by decide)

end Presence

/-- The objects at the server by their paths. No object has a path with marks in it. -/
structure Stock where
  presence : String → Presence
  unmarked : ∀ path, presence path ≠ .absent → ∀ c ∈ path.toList, c ≠ '?' ∧ c ≠ '#'

/-- How a request that reads or deletes an object is served, going by what there is when it is taken
up and afterwards. -/
structure Request.Served (r : Request) (reply : Reply) (before after : Stock) : Prop where
  /-- The object is called missing only if it is. -/
  missing : ∀ e, Reply.text reply = .error e → e.code = some 404 ∨ e.reason = some "NotFound" →
    before.presence r.path = .absent
  /-- An object does not stand any more once its deletion is accepted. -/
  deleted : r.method = .delete → ∀ text, Reply.text reply = .ok text →
    after.presence r.path ≠ .standing
  /-- Nothing is created. -/
  fewer : ∀ path, (after.presence path).rank ≤ (before.presence path).rank

/-- An exchange with the server, with what there was when it was taken up and afterwards. -/
structure Turn where
  said : Exchange api
  before : Stock
  after : Stock

namespace Turn

/-- Whether a request was served as it should be. -/
def Proper (t : Turn) : Prop :=
  match t.said with
  | ⟨.send r, reply⟩ => r.Served reply t.before t.after
  | ⟨.report _, _⟩ => t.after = t.before

def isRequest (t : Turn) : Bool :=
  match t.said.1 with
  | .send _ => true
  | .report _ => false

/-- A conversation, the latest turn first, in which requests are served as they should be. Others
may do anything between two turns but create the object at `path`. -/
def Chronicle (path : String) : List Turn → Prop
  | [] => True
  | t :: earlier => t.Proper ∧
      (∀ last ∈ earlier.head?, (t.before.presence path).rank ≤ (last.after.presence path).rank) ∧
      Chronicle path earlier

/-- What there was when the last request was taken up. -/
def atLastRequest (turns : List Turn) : Option Stock := (turns.find? isRequest).map before

end Turn

/-- A request arrives as it was sent, or what it asks for does not exist. -/
theorem Request.path_onArrival (r : Request) (stock : Stock) :
    r.onArrival.path = r.path ∨ stock.presence r.path = .absent := by
  by_cases habsent : stock.presence r.path = .absent
  · exact .inr habsent
  · left
    have hunmarked := stock.unmarked r.path habsent
    have hpath : r.path.toList.takeWhile (fun c => c ≠ '?' && c ≠ '#') = r.path.toList :=
      List.takeWhile_eq_self_iff.mpr fun c hc => by simpa using hunmarked c hc
    rw [Request.onArrival, hpath]
    simp

theorem Request.method_onArrival (r : Request) : r.onArrival.method = r.method := by
  rw [Request.onArrival]
  dsimp only
  split_ifs <;> rfl

/-- A request as it arrives, and the reply to it. -/
def Request.exchange (r : Request) (reply : Reply) : Exchange api :=
  ⟨ApiQuestion.send r.onArrival, reply⟩

/-- A request is sent and answered, or it is not sent because it has no address. -/
theorem Request.send_always (r : Request) : (Api.send r).Always fun reply heard =>
    heard = [r.exchange reply] ∨ heard = [] ∧ ∃ fault, reply = .error (.unsendable fault) := by
  rw [Api.send]
  cases hfault : r.fault? with
  | none => exact fun reply => .inl rfl
  | some e =>
      rw [Request.fault?] at hfault
      split at hfault
      · cases hfault
      · next fault _ =>
          cases hfault
          exact .inr ⟨rfl, fault, rfl⟩

theorem Request.send_leads {r : Request} {reply : Reply} (hsendable : r.fault? = none) :
    (Api.send r).Leads [r.exchange reply] (.done reply) := by
  rw [Api.send, hsendable]
  exact Program.Leads.hear (I := api) (q := .send r.onArrival) .start reply

-- Which requests can be sent does not matter from here on.
attribute [local irreducible] Api.send

namespace Reply

variable {α : Type} {d : Decoder α} {report : Decoder Unit} {reply : Reply} {e : ApiFailure}

/-- Whether a reply says that an object is deleted, or that there is none. -/
def Clears (reply : Reply) : Prop :=
  (∃ text, Reply.text reply = .ok text) ∨ ∃ e, Reply.text reply = .error e ∧ e.code = some 404

theorem clears_of_deletion (h : Reply.deletion d report reply = .ok ()) : reply.Clears := by
  cases htext : Reply.text reply with
  | ok text => exact .inl ⟨text, htext⟩
  | error e => simp [Reply.deletion, htext] at h

/-- A deletion fails with this code only if the server says so. -/
theorem clears_of_notFound (h : Reply.deletion d report reply = .error e)
    (hcode : e.code = some 404) : reply.Clears := by
  cases htext : Reply.text reply with
  | ok text => exact .inl ⟨text, htext⟩
  | error e' =>
      simp only [Reply.deletion, htext, Except.error.injEq] at h
      exact .inr ⟨e', htext, h ▸ hcode⟩

/-- No request is taken for served that was not sent. -/
theorem Clears.ne_unsendable (h : reply.Clears) (fault : UriFault) :
    reply ≠ .error (.unsendable fault) := by
  rintro rfl
  rcases h with ⟨text, htext⟩ | ⟨e, he, hcode⟩
  · cases htext
  · cases he
    cases hcode

theorem text_of_missing (h : Reply.object? d reply = .ok none) :
    ∃ e, Reply.text reply = .error e ∧ e.reason = some "NotFound" := by
  rw [Reply.object?] at h
  split at h
  · cases h
  · next e hobject =>
      split_ifs at h with hreason
      cases htext : Reply.text reply with
      | error e' =>
          simp only [Reply.object, htext, Except.error.injEq] at hobject
          exact ⟨e', rfl, hobject ▸ hreason⟩
      | ok text =>
          -- what cannot be read has no reason
          cases hread : d.ofText text with
          | ok a => simp [Reply.object, htext, hread, Except.mapError] at hobject
          | error _ =>
              simp only [Reply.object, htext, hread, Except.mapError, Except.error.injEq] at hobject
              subst hobject
              cases hreason

end Reply

namespace Request.Served

variable {r : Request} {reply : Reply} {before after : Stock}

theorem absent (h : r.onArrival.Served reply before after) {e : ApiFailure}
    (htext : Reply.text reply = .error e) (he : e.code = some 404 ∨ e.reason = some "NotFound") :
    before.presence r.path = .absent := by
  rcases r.path_onArrival before with hpath | habsent
  · rw [← hpath]
    exact h.missing e htext he
  · exact habsent

theorem not_standing (h : r.onArrival.Served reply before after) (hmethod : r.method = .delete)
    (hclears : reply.Clears) : after.presence r.path ≠ .standing := by
  have hfewer := h.fewer r.path
  rcases hclears with ⟨text, htext⟩ | ⟨e, htext, hcode⟩
  · rcases r.path_onArrival after with hpath | habsent
    · rw [← hpath]
      exact h.deleted (by rwa [r.method_onArrival]) text htext
    · rw [habsent]
      nofun
  · rw [Presence.eq_absent hfewer (h.absent htext (.inl hcode))]
    nofun

end Request.Served

theorem Turn.Proper.served {t : Turn} {r : Request} {reply : Reply} (h : t.Proper)
    (hsaid : t.said = r.exchange reply) : r.onArrival.Served reply t.before t.after := by
  rw [Turn.Proper, hsaid] at h
  exact h

namespace Dependents

theorem delete_always {α : Type} (d : Dependents) (kind : Kind) (decode : Decoder α) :
    (d.delete kind decode).Always fun result heard => result = .ok () → ∃ reply : Reply,
      heard = [(d.deleteRequest kind).exchange reply] ∧ reply.Clears := by
  rw [delete]
  refine (d.deleteRequest kind).send_always.bind fun reply heard hsent => ?_
  have hcleared : reply.Clears → ∃ reply : Reply,
      heard = [(d.deleteRequest kind).exchange reply] ∧ reply.Clears := by
    intro hclears
    rcases hsent with hsent | ⟨-, fault, hreply⟩
    · exact ⟨reply, hsent, hclears⟩
    · exact absurd hreply (hclears.ne_unsendable fault)
  cases hreply : Reply.deletion decode deletionReport reply with
  | ok done => exact fun _ => hcleared (Reply.clears_of_deletion hreply)
  | error e =>
      dsimp only
      split
      · next hnotFound =>
          have hcode : e.code = some 404 := by
            simpa [failed, GeneratorError.isNotFound] using hnotFound
          exact fun _ => hcleared (Reply.clears_of_notFound hreply hcode)
      · exact nofun

theorem remove_always (d : Dependents) : d.remove.Always fun result heard => result = .ok () →
    ∃ deployment service : Reply, service.Clears ∧
      heard = [(d.deleteRequest Kind.service).exchange service,
        (d.deleteRequest Deployment.kind).exchange deployment] := by
  rw [remove]
  refine (d.delete_always Deployment.kind Deployment.decode).bind fun result heard hdeployment => ?_
  cases result with
  | error e => exact nofun
  | ok done =>
      obtain ⟨deployment, rfl, -⟩ := hdeployment rfl
      refine (d.delete_always Kind.service decodeService).mono fun result later hservice => ?_
      intro hresult
      obtain ⟨service, rfl, hclears⟩ := hservice hresult
      exact ⟨deployment, service, hclears, rfl⟩

/-- A teardown is complete once the deletion of the service was accepted, or there was none, and no
deployment is found after it. -/
theorem finalize_always (d : Dependents) : d.finalize.Always fun result heard =>
    result = .ok .complete → ∃ deployment service found : Reply, service.Clears ∧
      (∃ e, Reply.text found = .error e ∧ e.reason = some "NotFound") ∧
      heard = [d.getRequest.exchange found, (d.deleteRequest Kind.service).exchange service,
        (d.deleteRequest Deployment.kind).exchange deployment] := by
  rw [finalize]
  refine d.remove_always.bind fun result heard hremoved => ?_
  cases result with
  | error e => exact nofun
  | ok done =>
      obtain ⟨deployment, service, hclears, rfl⟩ := hremoved rfl
      refine d.getRequest.send_always.bind fun found heard hsent => ?_
      cases hfound : Reply.object? Deployment.decode found with
      | error e => exact nofun
      | ok o =>
          cases o with
          | some deployment => exact fun _ => nofun
          | none =>
              rcases hsent with rfl | ⟨-, fault, rfl⟩
              · have hmissing := Reply.text_of_missing hfound
                exact fun _ => ⟨deployment, service, found, hclears, hmissing, rfl⟩
              · cases hfound

section

variable {d : Dependents} {α : Type} {kind : Kind} {decode : Decoder α} {reply : Reply}

theorem delete_leads (hsendable : (d.deleteRequest kind).fault? = none)
    (hreply : Reply.deletion decode deletionReport reply = .ok () ∨
      ∃ e, Reply.deletion decode deletionReport reply = .error e ∧ e.code = some 404) :
    (d.delete kind decode).Leads [(d.deleteRequest kind).exchange reply] (.done (.ok ())) := by
  rw [delete, ← List.nil_append [_]]
  refine (Request.send_leads hsendable).bind ?_
  rcases hreply with hdeleted | ⟨e, he, hcode⟩
  · rw [hdeleted]
    exact .start
  · rw [he]
    simp only [failed, GeneratorError.isNotFound, hcode, decide_true, if_true]
    exact .start

/-- A teardown is complete if the server deletes what there is and does not find the deployment. -/
theorem finalize_leads {deployment service found : Reply}
    (hsendable : (d.deleteRequest Deployment.kind).fault? = none ∧
      (d.deleteRequest Kind.service).fault? = none ∧ d.getRequest.fault? = none)
    (hdeployment : Reply.deletion Deployment.decode deletionReport deployment = .ok () ∨
      ∃ e, Reply.deletion Deployment.decode deletionReport deployment = .error e ∧
        e.code = some 404)
    (hservice : Reply.deletion decodeService deletionReport service = .ok () ∨
      ∃ e, Reply.deletion decodeService deletionReport service = .error e ∧ e.code = some 404)
    (hfound : Reply.object? Deployment.decode found = .ok none) :
    d.finalize.Leads [d.getRequest.exchange found, (d.deleteRequest Kind.service).exchange service,
      (d.deleteRequest Deployment.kind).exchange deployment] (.done (.ok .complete)) := by
  obtain ⟨hsend, hsend', hsend''⟩ := hsendable
  have hremove : d.remove.Leads ([(d.deleteRequest Kind.service).exchange service] ++
      [(d.deleteRequest Deployment.kind).exchange deployment]) (.done (.ok ())) := by
    rw [remove]
    exact (delete_leads hsend hdeployment).bind (delete_leads hsend' hservice)
  rw [finalize, ← List.singleton_append]
  refine hremove.bind ?_
  dsimp only
  rw [← List.nil_append [d.getRequest.exchange found]]
  refine (Request.send_leads hsend'').bind ?_
  rw [hfound]
  exact .start

end

variable {d : Dependents} {turns : List Turn} {result : Except GeneratorError Teardown}

/-- **A teardown that is reported as complete leaves no deployment, and no service but one that is
leaving.** When the last request is served there is no deployment, and the service is gone as well
unless its deletion was accepted and finalizers of its own hold it. All other results are that
objects are still to go, or an error. -/
theorem complete_unless_leaving (hturns : Turn.Chronicle (d.path Kind.service) turns)
    (hleads : d.finalize.Leads (turns.map Turn.said) (.done result)) :
    (result = .ok .complete ∧ ∃ stock ∈ Turn.atLastRequest turns,
      stock.presence (d.path Deployment.kind) = .absent ∧
      stock.presence (d.path Kind.service) ≠ .standing ∧
      ((∀ t ∈ turns, t.after.presence (d.path Kind.service) ≠ .leaving) →
        stock.presence (d.path Kind.service) = .absent)) ∨
    result = .ok .pending ∨ ∃ e, result = .error e := by
  cases result with
  | error e => exact .inr (.inr ⟨e, rfl⟩)
  | ok teardown =>
      cases teardown with
      | pending => exact .inr (.inl rfl)
      | complete =>
          obtain ⟨deployment, service, found, hclears, ⟨e, htext, he⟩, hheard⟩ :=
            hleads.ended d.finalize_always rfl
          obtain ⟨last, rest, rfl, hlast, hrest⟩ := List.map_eq_cons_iff.mp hheard
          obtain ⟨cleared, earlier, rfl, hcleared, -⟩ := List.map_eq_cons_iff.mp hrest
          obtain ⟨hproper, hmeanwhile, hproper', -⟩ := hturns
          have hfewer := hmeanwhile cleared rfl
          have hgone := (hproper'.served hcleared).not_standing rfl hclears
          refine .inl ⟨rfl, last.before, ?_, (hproper.served hlast).absent htext (.inr he),
            Presence.ne_standing hfewer hgone, fun hleaving => Presence.eq_absent hfewer ?_⟩
          · simp [Turn.atLastRequest, Turn.isRequest, hlast, Request.exchange]
          · have hnot := hleaving cleared (by simp)
            cases hpresence : cleared.after.presence (d.path Kind.service) with
            | absent => rfl
            | leaving => exact absurd hpresence hnot
            | standing => exact absurd hpresence hgone

/-! ### A service that is held back -/

/-- A site whose service is held back. -/
def site : Dependents := ⟨"registry", "registry:2"⟩

/-- What the server says of an object that is not there. -/
def missing : Reply := Cluster.refusedReply 404 "NotFound"

/-- The service, as the server shows it when its deletion is accepted and a finalizer holds it. -/
def held : Reply :=
  let service : Json := .obj [("metadata", .obj [
    ("deletionTimestamp", .str "2024-05-01T00:00:00Z"),
    ("finalizers", .arr [.str "service.kubernetes.io/load-balancer-cleanup"])])]
  .ok ⟨200, .ok service.text⟩

theorem text_missing :
    Reply.text missing = .error (.refused ⟨"Failure", "NotFound error", "NotFound", 404⟩) := by
  decide +kernel

theorem text_held : ∃ text, Reply.text held = .ok text := ⟨_, rfl⟩

/-- A stock of the service alone. -/
def only (service : Presence) : Stock where
  presence path := if path = site.path Kind.service then service else .absent
  unmarked path h := by
    have hpath : path = site.path Kind.service := by
      by_contra hother
      exact h (if_neg hother)
    have hall : (site.path Kind.service).toList.all (fun c => c ≠ '?' && c ≠ '#') = true := by
      decide +kernel
    intro c hc
    rw [hpath] at hc
    simpa using List.all_eq_true.mp hall c hc

/-- There is no deployment any more, and the service is deleted and stays. -/
def heldBack : List Turn :=
  [⟨site.getRequest.exchange missing, only .leaving, only .leaving⟩,
    ⟨(site.deleteRequest Kind.service).exchange held, only .standing, only .leaving⟩,
    ⟨(site.deleteRequest Deployment.kind).exchange missing, only .standing, only .standing⟩]

theorem heldBack_leads : site.finalize.Leads (heldBack.map Turn.said) (.done (.ok .complete)) := by
  have hdeployment : Reply.deletion Deployment.decode deletionReport missing =
      .error (.refused ⟨"Failure", "NotFound error", "NotFound", 404⟩) := by
    rw [Reply.deletion, text_missing]
  have hfound : Reply.object? Deployment.decode missing = .ok none := by
    rw [Reply.object?, Reply.object, text_missing]
    rfl
  exact finalize_leads ⟨by decide +kernel, by decide +kernel, by decide +kernel⟩
    (.inr ⟨_, hdeployment, rfl⟩) (.inl (by decide +kernel)) hfound

theorem served_missing {r : Request} {stock : Stock} (h : stock.presence r.path = .absent) :
    r.Served missing stock stock where
  missing _ _ _ := h
  deleted _ text htext := by
    rw [text_missing] at htext
    cases htext
  fewer _ := le_rfl

theorem served_held : (site.deleteRequest Kind.service).onArrival.Served held (only .standing)
    (only .leaving) where
  missing e htext := by
    obtain ⟨text, hheld⟩ := text_held
    rw [hheld] at htext
    cases htext
  deleted _ _ _ := by decide +kernel
  fewer path := by
    by_cases hpath : path = site.path Kind.service
    · simp [only, hpath, Presence.rank]
    · simp [only, hpath]

theorem heldBack_chronicle : Turn.Chronicle (site.path Kind.service) heldBack := by
  refine ⟨served_missing (by decide +kernel), fun last hlast => ?_, served_held,
    fun last hlast => ?_, served_missing (by decide +kernel), by simp, trivial⟩
  · cases hlast
    exact le_rfl
  · cases hlast
    exact le_rfl

/-- The service may still be there when the teardown is reported as complete: its deletion was
accepted, a finalizer of its own holds it, and nobody asks for it again. -/
theorem service_outlives_teardown :
    Turn.Chronicle (site.path Kind.service) heldBack ∧
      site.finalize.Leads (heldBack.map Turn.said) (.done (.ok .complete)) ∧
      ∃ stock ∈ Turn.atLastRequest heldBack, stock.presence (site.path Kind.service) ≠ .absent :=
  ⟨heldBack_chronicle, heldBack_leads, _, rfl, by decide +kernel⟩

/-- A service that is held back is neither gone nor standing when the teardown is reported. -/
theorem complete_unless_leaving_heldBack :
    ∃ stock ∈ Turn.atLastRequest heldBack, stock.presence (site.path Deployment.kind) = .absent ∧
      stock.presence (site.path Kind.service) ≠ .standing := by
  rcases complete_unless_leaving heldBack_chronicle heldBack_leads with
    ⟨-, stock, hstock, habsent, hstanding, -⟩ | hpending | ⟨e, he⟩
  · exact ⟨stock, hstock, habsent, hstanding⟩
  · cases hpending
  · cases he

end Dependents
end RegistryOperator
