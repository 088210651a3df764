import Shorthand.Proofs.Completion.Containment
import Shorthand.Proofs.Session.Waiting

/-!
# How a wait ends

A completion that waits is replied to once: when it is cancelled, or when the retrieval
that it rests on is answered.  Until then every event of the session leaves it waiting,
and afterwards no event replies to it again.
-/

namespace Shorthand

/-- The replies to one completion among replies to several. -/
def repliesTo (id : RequestId) (replies : List (RequestId × Reply)) : List Reply :=
  (replies.filter (·.1 == id)).map (·.2)

@[simp] theorem repliesTo_append (id : RequestId) (replies more : List (RequestId × Reply)) :
    repliesTo id (replies ++ more) = repliesTo id replies ++ repliesTo id more := by
  simp [repliesTo]

theorem repliesTo_eq_nil
    {id : RequestId} {replies : List (RequestId × Reply)}
    (hother : ∀ reply ∈ replies, reply.1 ≠ id) : repliesTo id replies = [] := by
  simp only [repliesTo, List.map_eq_nil_iff, List.filter_eq_nil_iff]
  intro reply hreply
  simpa using hother reply hreply

/-- Among completions with requests of their own, each stands once. -/
theorem exists_split_of_nodup
    {calls : List Call} {call : Call} (hnodup : (calls.map Call.id).Nodup)
    (hcall : call ∈ calls) :
    ∃ front back, calls = front ++ call :: back ∧
      (∀ other ∈ front, other.id ≠ call.id) ∧ ∀ other ∈ back, other.id ≠ call.id := by
  obtain ⟨front, back, rfl⟩ := List.append_of_mem hcall
  rw [List.map_append, List.map_cons, List.nodup_append, List.nodup_cons] at hnodup
  obtain ⟨-, ⟨hback, -⟩, hfront⟩ := hnodup
  refine ⟨front, back, rfl, ?_, ?_⟩
  · intro other hother
    exact hfront _ (List.mem_map_of_mem hother) _ List.mem_cons_self
  · intro other hother hsame
    exact hback (hsame ▸ List.mem_map_of_mem hother)

namespace Session

/-! ## A resumption -/

theorem resume_of_pending
    {session : Session} (engine : Engine) {call : Call}
    (hnodup : (session.calls.map Call.id).Nodup) (hcall : call ∈ session.calls)
    (hpending : session.progress call = .pending) :
    call ∈ (session.resume engine).result.1.calls ∧
      repliesTo call.id (session.resume engine).result.2 = [] := by
  rw [resume_eq]
  constructor
  · exact List.mem_filter.mpr ⟨hcall, by simp [hpending]⟩
  · apply repliesTo_eq_nil
    intro reply hreply
    obtain ⟨other, hother, rfl⟩ := List.mem_map.mp hreply
    obtain ⟨hmem, hready⟩ := List.mem_filter.mp hother
    intro hsame
    obtain ⟨front, back, hcalls, hfront, hback⟩ := exists_split_of_nodup hnodup hcall
    rw [hcalls, List.mem_append, List.mem_cons] at hmem
    rcases hmem with hmem | rfl | hmem
    · exact hfront other hmem hsame
    · simp [hpending] at hready
    · exact hback other hmem hsame

/-- A completion that need not wait is replied to once by a resumption. -/
theorem resume_of_not_pending
    {session : Session} (engine : Engine) {call : Call}
    (hnodup : (session.calls.map Call.id).Nodup) (hcall : call ∈ session.calls)
    (hready : session.progress call ≠ .pending) :
    let own := session.reply engine call (session.progress call)
    (∀ other ∈ (session.resume engine).result.1.calls, other.id ≠ call.id) ∧
      repliesTo call.id (session.resume engine).result.2 = [own.result] ∧
      ∃ front back, (session.resume engine).records = front ++ own.records ++ back := by
  intro own
  obtain ⟨front, back, hcalls, hfront, hback⟩ := exists_split_of_nodup hnodup hcall
  rw [resume_eq]
  refine ⟨?_, ?_, ?_⟩
  · intro other hother hsame
    obtain ⟨hmem, hwaits⟩ := List.mem_filter.mp hother
    rw [hcalls, List.mem_append, List.mem_cons] at hmem
    rcases hmem with hmem | rfl | hmem
    · exact hfront other hmem hsame
    · exact hready (eq_of_beq hwaits)
    · exact hback other hmem hsame
  · have hquiet : ∀ calls : List Call, (∀ other ∈ calls, other.id ≠ call.id) →
        repliesTo call.id ((calls.filter (!session.progress · == .pending)).map fun call =>
          (call.id, (session.reply engine call (session.progress call)).result)) = [] := by
      intro calls hothers
      apply repliesTo_eq_nil
      intro reply hreply
      obtain ⟨other, hother, rfl⟩ := List.mem_map.mp hreply
      exact hothers other (List.mem_filter.mp hother).1
    simp only [hcalls, List.filter_append, List.filter_cons, List.map_append, repliesTo_append]
    rw [hquiet front hfront, if_pos (by simpa using hready), List.map_cons,
      ← List.singleton_append, repliesTo_append, hquiet back hback]
    simp [repliesTo, own]
  · simp only [hcalls, List.filter_append, List.filter_cons, List.flatMap_append]
    rw [if_pos (by simpa using hready), List.flatMap_cons, ← List.append_assoc]
    exact ⟨_, _, rfl⟩

/-! ## One event -/

/-- A waiting completion rests on a retrieval of the store that it asked. -/
def Rests (session : Session) (call : Call) (number : Nat) : Prop :=
  ∃ store, session.storeOf? call.id.generation = some store ∧
    store.Rests call.id.request number

theorem WellFormed.exists_rests
    {session : Session} (hsession : session.WellFormed) {call : Call}
    (hcall : call ∈ session.calls) : ∃ number, session.Rests call number := by
  obtain ⟨store, hstore, hpending⟩ := hsession.pending hcall
  obtain ⟨number, uri, hrests, -, -⟩ :=
    Store.rests_of_pending (hsession.stores hstore) hpending
  exact ⟨number, store, hstore, hrests⟩

/-- An event concerns a waiting completion: it cancels it, or answers the retrieval that
it rests on. -/
inductive Concerns (session : Session) (call : Call) : SessionEvent → Prop
  | cancel {engine : Engine} : Concerns session call (.cancel engine call.id)
  | settle {engine : Engine} {number : Nat} {answer : Answer} :
      session.Rests call number →
      Concerns session call (.settle engine call.id.generation number answer)

/-- An event ends the wait of a completion with a reply and some records.  The completion
is cancelled itself, or the retrieval that it shares is cancelled; or that is answered
otherwise, and the completion is served, contained, from its document as it then is. -/
inductive Ends (session : Session) (call : Call) : SessionEvent → Reply → List Record → Prop
  | cancelled {engine : Engine} :
      Ends session call (.cancel engine call.id) .cancelled []
  | abandoned {engine : Engine} {number : Nat} :
      session.Rests call number →
      Ends session call (.settle engine call.id.generation number .cancellation) .cancelled []
  | served {engine : Engine} {number : Nat} {answer : Answer} {store : Store}
      {document : Document} {routing : Routing} {items : List Item} {records : List Record} :
      session.Rests call number →
      session.storeOf? call.id.generation = some store →
      answer.Ends store.default (.served routing) →
      session.documents[call.document]? = some document →
      Contained engine (document.line session.replaces call.position)
        (routing.grammars document.language) items records →
      Ends session call (.settle engine call.id.generation number answer) (.items items) records

/-- An event does not concern a completion: it waits on, without a reply. -/
def Passes (session : Session) (call : Call) (event : SessionEvent) : Prop :=
  call ∈ (session.step event).result.1.calls ∧
    repliesTo call.id (session.step event).result.2 = [] ∧ ¬ session.Concerns call event

/-- An event ends the wait of a completion, with exactly one reply. -/
def Resolves (session : Session) (call : Call) (event : SessionEvent) (reply : Reply) : Prop :=
  (∀ other ∈ (session.step event).result.1.calls, other.id ≠ call.id) ∧
    repliesTo call.id (session.step event).result.2 = [reply] ∧
    ∃ own front back, session.Ends call event reply own ∧
      (session.step event).records = front ++ own ++ back

theorem WellFormed.ends_of_settle
    {session : Session} (hsession : session.WellFormed) (engine : Engine) {call : Call}
    (hcall : call ∈ session.calls) {store : Store} {number : Nat} {answer : Answer}
    {progress : Progress} (hstore : session.storeOf? call.id.generation = some store)
    (hrests : store.Rests call.id.request number) (hends : answer.Ends store.default progress)
    (next : Store) :
    let moment := session.setStore call.id.generation next
    let own := moment.reply engine call progress
    session.Ends call (.settle engine call.id.generation number answer) own.result
      own.records := by
  intro moment own
  have hlt := hsession.document hcall
  have hdocument : session.documents[call.document]? = some session.documents[call.document] :=
    List.getElem?_eq_getElem hlt
  have hserved : ∀ routing, answer.Ends store.default (.served routing) →
      session.Ends call (.settle engine call.id.generation number answer)
        (moment.reply engine call (.served routing)).result
        (moment.reply engine call (.served routing)).records := by
    intro routing hrouting
    simp only [reply, moment, setStore_documents, setStore_replaces, hdocument]
    exact .served ⟨store, hstore, hrests⟩ hstore hrouting hdocument
      (Document.contained_complete _ _ _ _ _)
  cases hends with
  | accepted hsettings hrouting => exact hserved _ (.accepted hsettings hrouting)
  | refused hsettings => exact hserved _ (.refused hsettings)
  | failed => exact hserved _ .failed
  | cancelled => exact .abandoned ⟨store, hstore, hrests⟩

/-- An event of the store that a completion asked ends its wait, or lets it wait on. -/
theorem WellFormed.resume_cases
    {session : Session} (hsession : session.WellFormed) (engine : Engine) {call : Call}
    (hcall : call ∈ session.calls) {generation : Nat} {store : Store}
    (hstore : session.storeOf? generation = some store) (event : StoreEvent) :
    let moment := session.setStore generation (store.step event).result
    let resumed := moment.resume engine
    (call ∈ resumed.result.1.calls ∧ repliesTo call.id resumed.result.2 = [] ∧
      (call.id.generation = generation → event ≠ .cancel call.id.request ∧
        ∀ number answer, event = .settle number answer → ¬ session.Rests call number)) ∨
    (∃ reply own, (∀ other ∈ resumed.result.1.calls, other.id ≠ call.id) ∧
      repliesTo call.id resumed.result.2 = [reply] ∧
      (∃ front back, resumed.records = front ++ own ++ back) ∧
      call.id.generation = generation ∧
      ((event = .cancel call.id.request ∧ reply = .cancelled ∧ own = []) ∨
        ∃ number answer, event = .settle number answer ∧
          session.Ends call (.settle engine call.id.generation number answer) reply own)) := by
  intro moment resumed
  have hnodup : (moment.calls.map Call.id).Nodup := by
    rw [setStore_calls]
    exact hsession.nodup
  have hmem : call ∈ moment.calls := by
    rw [setStore_calls]
    exact hcall
  by_cases hgeneration : call.id.generation = generation
  · subst generation
    obtain ⟨found, hfound, hpending⟩ := hsession.pending hcall
    obtain rfl := Option.some.inj (hstore.symm.trans hfound)
    have hprogress := progress_setStore_self (store.step event).result hstore
    rcases Store.pending_step_cases (hsession.stores hstore) hpending event with
      ⟨hstays, hcancel, hsettle⟩ | ⟨hevent, hcancelled⟩ |
      ⟨number, answer, progress, hevent, hrests, hended, hends⟩
    · rw [hstays] at hprogress
      obtain ⟨hwaits, hquiet⟩ := resume_of_pending engine hnodup hmem hprogress
      refine .inl ⟨hwaits, hquiet, fun _ => ⟨hcancel, ?_⟩⟩
      rintro number answer hevent ⟨other, hother, hrests⟩
      obtain rfl := Option.some.inj (hstore.symm.trans hother)
      exact hsettle number answer hevent hrests
    · rw [hcancelled] at hprogress
      have hready : moment.progress call ≠ .pending := by simp [moment, hprogress]
      obtain ⟨hgone, honce, hrecords⟩ := resume_of_not_pending engine hnodup hmem hready
      rw [hprogress] at honce hrecords
      exact .inr ⟨_, _, hgone, honce, hrecords, rfl, .inl ⟨hevent, rfl, rfl⟩⟩
    · rw [hended] at hprogress
      have hready : moment.progress call ≠ .pending := by
        rw [hprogress]
        cases hends <;> simp
      obtain ⟨hgone, honce, hrecords⟩ := resume_of_not_pending engine hnodup hmem hready
      rw [hprogress] at honce hrecords
      exact .inr ⟨_, _, hgone, honce, hrecords, rfl, .inr ⟨number, answer, hevent,
        hsession.ends_of_settle engine hcall hstore hrests hends _⟩⟩
  · have hprogress := progress_setStore_of_ne hstore (store.step event).result hgeneration
    rw [hsession.waiting hcall] at hprogress
    obtain ⟨hwaits, hquiet⟩ := resume_of_pending engine hnodup hmem hprogress
    exact .inl ⟨hwaits, hquiet, fun hsame => absurd hsame hgeneration⟩

/-- An answer ends the wait of a completion with one reply, or does not concern it. -/
theorem WellFormed.settle_call
    {session : Session} (hsession : session.WellFormed) {call : Call}
    (hcall : call ∈ session.calls) (engine : Engine) (generation retrieval : Nat)
    (answer : Answer) :
    session.Passes call (.settle engine generation retrieval answer) ∨
      ∃ reply, session.Resolves call (.settle engine generation retrieval answer) reply := by
  rcases session.settle_cases engine generation retrieval answer with
    ⟨hnone, h⟩ | ⟨store, hstore, h⟩
  · have hstep : session.step (.settle engine generation retrieval answer) =
        ⟨(session, []), []⟩ := h
    left
    rw [Passes, hstep]
    refine ⟨hcall, rfl, ?_⟩
    obtain ⟨found, hfound, -⟩ := hsession.request hcall
    intro hconcerns
    cases hconcerns
    rw [hnone] at hfound
    cases hfound
  · let settled := store.step (.settle retrieval answer)
    let resumed := (session.setStore generation settled.result).resume engine
    have hstep : session.step (.settle engine generation retrieval answer) =
        ⟨resumed.result, settled.records ++ resumed.records⟩ := h
    rcases hsession.resume_cases engine hcall hstore (.settle retrieval answer) with
      ⟨hwaits, hquiet, hother⟩ | ⟨reply, own, hgone, honce, ⟨front, back, hrecords⟩, rfl,
        ⟨hevent, -⟩ | ⟨number, given, hevent, hends⟩⟩
    · left
      rw [Passes, hstep]
      refine ⟨hwaits, hquiet, ?_⟩
      intro hconcerns
      cases hconcerns with
      | settle hrests => exact (hother rfl).2 _ _ rfl hrests
    · cases hevent
    · cases hevent
      right
      refine ⟨reply, ?_⟩
      rw [Resolves, hstep]
      refine ⟨hgone, honce, own, settled.records ++ front, back, hends, ?_⟩
      change settled.records ++ resumed.records = _
      rw [hrecords, List.append_assoc, List.append_assoc, List.append_assoc]

/-- A cancellation ends the wait of a completion with one reply, or does not concern it. -/
theorem WellFormed.cancel_call
    {session : Session} (hsession : session.WellFormed) {call : Call}
    (hcall : call ∈ session.calls) (engine : Engine) (id : RequestId) :
    session.Passes call (.cancel engine id) ∨
      ∃ reply, session.Resolves call (.cancel engine id) reply := by
  rcases session.cancel_cases engine id with ⟨hnone, h⟩ | ⟨store, hstore, h⟩
  · have hstep : session.step (.cancel engine id) = ⟨(session, []), []⟩ := h
    left
    rw [Passes, hstep]
    refine ⟨hcall, rfl, ?_⟩
    obtain ⟨found, hfound, -⟩ := hsession.request hcall
    intro hconcerns
    cases hconcerns
    rw [hnone] at hfound
    cases hfound
  · have hstep : session.step (.cancel engine id) =
        (session.setStore id.generation (store.step (.cancel id.request)).result).resume
          engine := h
    rcases hsession.resume_cases engine hcall hstore (.cancel id.request) with
      ⟨hwaits, hquiet, hother⟩ | ⟨reply, own, hgone, honce, ⟨front, back, hrecords⟩,
        hgeneration, ⟨hevent, rfl, rfl⟩ | ⟨number, given, hevent, -⟩⟩
    · left
      rw [Passes, hstep]
      refine ⟨hwaits, hquiet, ?_⟩
      intro hconcerns
      cases hconcerns
      exact (hother rfl).1 rfl
    · obtain rfl : id = call.id := by
        rcases id with ⟨generation, request⟩
        cases hevent
        cases hgeneration
        rfl
      right
      refine ⟨.cancelled, ?_⟩
      rw [Resolves, hstep]
      exact ⟨hgone, honce, [], front, back, .cancelled, hrecords⟩
    · cases hevent

/-- Every event ends the wait of a completion with one reply, or does not concern it. -/
theorem WellFormed.step_call
    {session : Session} (hsession : session.WellFormed) {call : Call}
    (hcall : call ∈ session.calls) (event : SessionEvent) :
    session.Passes call event ∨ ∃ reply, session.Resolves call event reply := by
  cases event with
  | introduce env client =>
      obtain ⟨noted, rfl, h | ⟨config, h⟩⟩ := session.introduce_cases env client
      · left
        rw [Passes, h]
        exact ⟨hcall, rfl, nofun⟩
      · left
        rw [Passes, h]
        exact ⟨hcall, rfl, nofun⟩
  | ready | changeFolders | shutDown | configure | openDocument =>
      exact .inl ⟨hcall, rfl, nofun⟩
  | edit uri text =>
      obtain ⟨documents, h, -⟩ := session.edit_cases uri text
      have hstep : session.step (.edit uri text) = ⟨({ session with documents }, []), []⟩ := by
        rw [← h]
        rfl
      left
      rw [Passes, hstep]
      exact ⟨hcall, rfl, nofun⟩
  | closeDocument uri => exact .inl ⟨hcall, rfl, nofun⟩
  | complete engine uri position =>
      refine .inl ⟨?_, rfl, nofun⟩
      exact session.mem_complete hcall engine uri position
  | settle engine generation retrieval answer =>
      exact hsession.settle_call hcall engine generation retrieval answer
  | cancel engine id => exact hsession.cancel_call hcall engine id

/-! ## After the end -/

theorem Issued.step
    {session : Session} {id : RequestId} (hissued : session.Issued id) (event : SessionEvent) :
    (session.step event).result.1.Issued id := by
  obtain ⟨store, hstore, hlt⟩ := hissued
  obtain ⟨next, hnext, hlater⟩ := later_store hstore event
  exact ⟨next, hnext, Nat.lt_of_lt_of_le hlt hlater.requests_length_le⟩

/-- What waits after an event waited before it, or asked with it. -/
theorem mem_calls_step
    {session : Session} {event : SessionEvent} {call : Call}
    (hcall : call ∈ (session.step event).result.1.calls) :
    call ∈ session.calls ∨ ∃ number position, call = session.nextCall number position := by
  rcases session.step_calls_cases event with
    ⟨-, h | ⟨number, position, h⟩⟩ | ⟨moment, engine, hcalls, h⟩
  · rw [h] at hcall
    exact .inl hcall
  · rw [h] at hcall
    rcases List.mem_append.mp hcall with hold | hnew
    · exact .inl hold
    · exact .inr ⟨number, position, List.mem_singleton.mp hnew⟩
  · rw [h, resume_eq] at hcall
    exact .inl (hcalls ▸ (List.mem_filter.mp hcall).1)

theorem exists_call_of_reply
    {session : Session} {event : SessionEvent} {reply : RequestId × Reply}
    (hreply : reply ∈ (session.step event).result.2) :
    ∃ call ∈ session.calls, call.id = reply.1 := by
  rcases session.step_calls_cases event with ⟨h, -⟩ | ⟨moment, engine, hcalls, h⟩
  · rw [h] at hreply
    cases hreply
  · rw [h, resume_eq] at hreply
    obtain ⟨call, hcall, rfl⟩ := List.mem_map.mp hreply
    exact ⟨call, hcalls ▸ (List.mem_filter.mp hcall).1, rfl⟩

/-- A request that was made and does not wait is never replied to again. -/
theorem replied_eq_nil
    {session : Session} {id : RequestId} (hissued : session.Issued id)
    (hgone : ∀ call ∈ session.calls, call.id ≠ id) (events : List SessionEvent) :
    repliesTo id (session.replied events) = [] ∧
      ∀ call ∈ (session.after events).calls, call.id ≠ id := by
  induction events generalizing session with
  | nil => exact ⟨rfl, hgone⟩
  | cons event rest ih =>
      have hquiet : repliesTo id (session.step event).result.2 = [] := by
        apply repliesTo_eq_nil
        intro reply hreply
        obtain ⟨call, hcall, hid⟩ := exists_call_of_reply hreply
        rw [← hid]
        exact hgone call hcall
      have hstill : ∀ call ∈ (session.step event).result.1.calls, call.id ≠ id := by
        intro call hcall
        rcases mem_calls_step hcall with hold | ⟨number, position, rfl⟩
        · exact hgone call hold
        · exact hissued.ne_nextCall number position
      obtain ⟨hrest, hlast⟩ := ih (hissued.step event) hstill
      refine ⟨?_, hlast⟩
      rw [replied_cons, repliesTo_append, hquiet, hrest]
      rfl

/-! ## A run -/

/-- In a run a waiting completion is replied to once, by the event that ends its wait; or
no event concerns it, and it waits still. -/
theorem WellFormed.run_call
    {session : Session} (hsession : session.WellFormed) {call : Call}
    (hcall : call ∈ session.calls) (events : List SessionEvent) :
    (call ∈ (session.after events).calls ∧
      repliesTo call.id (session.replied events) = [] ∧
      ∀ before event rest, events = before ++ event :: rest →
        ¬ (session.after before).Concerns call event) ∨
    ∃ before event rest reply, events = before ++ event :: rest ∧
      call ∈ (session.after before).calls ∧
      (session.after before).Resolves call event reply ∧
      repliesTo call.id (session.replied events) = [reply] ∧
      ∀ other ∈ (session.after events).calls, other.id ≠ call.id := by
  induction events generalizing session with
  | nil => exact .inl ⟨hcall, rfl, by simp⟩
  | cons event rest ih =>
      rw [replied_cons, repliesTo_append]
      rcases hsession.step_call hcall event with ⟨hwaits, hquiet, hnot⟩ | ⟨reply, hresolves⟩
      · rw [hquiet, List.nil_append]
        rcases ih (hsession.step event) hwaits with
          ⟨hlast, hnone, hall⟩ | ⟨before, ending, last, reply, rfl, hmem, hresolves, honce, hgone⟩
        · refine .inl ⟨hlast, hnone, ?_⟩
          intro before other more heq
          cases before with
          | nil =>
              cases heq
              exact hnot
          | cons first before =>
              cases heq
              exact hall before other more rfl
        · exact .inr ⟨event :: before, ending, last, reply, rfl, hmem, hresolves, honce, hgone⟩
      · have hissued := (hsession.request hcall).step event
        obtain ⟨hquiet, hgone⟩ := replied_eq_nil hissued hresolves.1 rest
        rw [hresolves.2.1, hquiet]
        exact .inr ⟨[], event, rest, reply, rfl, hcall, hresolves, rfl, hgone⟩

end Session

end Shorthand
