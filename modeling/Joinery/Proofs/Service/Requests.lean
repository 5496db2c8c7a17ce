import Joinery.Proofs.Service.Redirects
import Joinery.Proofs.Service.Retries
import Joinery.Service

/-!
# Requests to the services

What a call to a remote service sends is told by the exchanges alone. Main statement: a
design is stored in a single attempt, whatever the answer. A model is asked for, and a
stored design removed, in one attempt or more, up to the retries that are configured:
a further one follows just where the one before was late, its connection dropped,
or the status was one of a server in trouble. The last attempt alone decides what the
call comes to, and an address of a model is only taken from a whole answer that succeeds.
An attempt is one request, and further ones where an answer sends the client on: it is
then that a design goes out twice.
-/

namespace Joinery

/-- The statuses of a server in trouble: its errors, and too many requests. -/
def IsTroubled (status : Nat) : Prop := 500 ≤ status ∨ status = 429

/-- A reply that may be different another time: none, one of a server in trouble, or one
whose body is wanted and broke off. -/
def Reply.IsTransient (bodyWanted : Bool) : Reply → Prop
  | answered status _ => IsTroubled status
  | encoded status _ _ => IsTroubled status
  | broken status => IsTroubled status ∨ (isSuccess status = true ∧ bodyWanted = true)
  | lost => True

/-- An attempt that may be different another time: one that runs past the deadline, or one
with such a reply. -/
def Delivery.IsTransient (policy : RetryPolicy) (bodyWanted : Bool) (delivery : Delivery) : Prop :=
  policy.attemptTimeout < delivery.duration ∨ delivery.reply.IsTransient bodyWanted

/-- What an attempt on its own comes to. -/
def Delivery.outcome {α : Type} (policy : RetryPolicy) (read : Reply → Except ServiceFault α)
    (delivery : Delivery) : Except ServiceFault α :=
  policy.effective ⟨delivery.duration, read delivery.reply⟩

theorem isSuccess_iff {status : Nat} : isSuccess status = true ↔ 200 ≤ status ∧ status ≤ 299 := by
  simp [isSuccess]

theorem isRetryable_refusal_iff {status : Nat} {body : String} :
    (Reply.refusal status body).isRetryable = true ↔ IsTroubled status := by
  simp [Reply.refusal, ServiceFault.isRetryable, IsTroubled]

theorem not_isTroubled_of_isSuccess {status : Nat} (success : isSuccess status = true) :
    ¬IsTroubled status := by
  rw [isSuccess_iff] at success
  rw [IsTroubled]
  omega

variable {α : Type}

/-- A reading of replies fails in passing just on replies that may be different another
time. -/
def Reply.Classifies (bodyWanted : Bool) (read : Reply → Except ServiceFault α) : Prop :=
  ∀ reply : Reply,
    (∃ fault, read reply = .error fault ∧ fault.isRetryable = true) ↔ reply.IsTransient bodyWanted

/-- A body that is not understood is not asked for again. -/
theorem Reply.classifies_read {decode : String → Except ServiceFault α}
    (final : ∀ body fault, decode body = .error fault → fault.isRetryable = false) :
    Reply.Classifies true (Reply.read decode) := by
  intro reply
  cases reply with
  | answered status body =>
      by_cases success : isSuccess status = true
      · simp only [read, if_pos success, IsTransient, not_isTroubled_of_isSuccess success,
          iff_false]
        rintro ⟨fault, failed, passes⟩
        rw [final body fault failed] at passes
        cases passes
      · simp [read, success, IsTransient, isRetryable_refusal_iff]
  | encoded status shown document =>
      by_cases success : isSuccess status = true
      · simp only [read, if_pos success, IsTransient, not_isTroubled_of_isSuccess success,
          iff_false]
        cases document with
        | none => simp [ServiceFault.isRetryable]
        | some body =>
            rintro ⟨fault, failed, passes⟩
            rw [final body fault failed] at passes
            cases passes
      · simp [read, success, IsTransient, isRetryable_refusal_iff]
  | broken status =>
      by_cases success : isSuccess status = true
      · simp [read, success, IsTransient, ServiceFault.isRetryable]
      · simp [read, success, IsTransient, isRetryable_refusal_iff]
  | lost => simp [read, IsTransient, ServiceFault.isRetryable]

theorem Reply.classifies_acknowledge : Reply.Classifies false Reply.acknowledge := by
  intro reply
  cases reply with
  | answered status body | encoded status shown document | broken status =>
      by_cases success : isSuccess status = true
      · simp [acknowledge, success, IsTransient, not_isTroubled_of_isSuccess success]
      · simp [acknowledge, success, IsTransient, isRetryable_refusal_iff]
  | lost => simp [acknowledge, IsTransient, ServiceFault.isRetryable]

theorem failsInPassing_iff {policy : RetryPolicy} {bodyWanted : Bool}
    {read : Reply → Except ServiceFault α} (classifies : Reply.Classifies bodyWanted read)
    (delivery : Delivery) :
    policy.FailsInPassing ⟨delivery.duration, read delivery.reply⟩ ↔
      delivery.IsTransient policy bodyWanted := by
  rw [RetryPolicy.FailsInPassing, RetryPolicy.effective, Delivery.IsTransient]
  by_cases late : policy.attemptTimeout < delivery.duration
  · rw [if_neg (Nat.not_le.mpr late)]
    simp [late, ServiceFault.isRetryable]
  · rw [if_pos (Nat.not_lt.mp late)]
    simpa [late] using classifies delivery.reply

/-- After a first attempt a call makes some retries: as many as a policy allows at most, and
each just after an attempt that may be different another time. -/
structure RetryPolicy.Repeats (policy : RetryPolicy) (bodyWanted : Bool)
    (deliveries : Nat → Delivery) (retries : Nat) : Prop where
  bounded : retries ≤ policy.maxRetries.toNat
  repeated : ∀ n < retries, (deliveries n).IsTransient policy bodyWanted
  stopped : ¬(deliveries retries).IsTransient policy bodyWanted ∨
    retries = policy.maxRetries.toNat

variable {client : Client} {server : Server} {policy : RetryPolicy} {bodyWanted : Bool}
  {read : Reply → Except ServiceFault α} {request : ServiceRequest} {history : History}
  {deliveries : Nat → Delivery} {retries n : Nat}

/-- What a call sends, and what it comes to. -/
theorem Client.course_call (classifies : Reply.Classifies bodyWanted read) (server : Server)
    (policy : RetryPolicy) (request : ServiceRequest) (history : History)
    (accepted : client.accepts request.url = true) :
    let deliveries := client.attempt server policy request history
    ∃ retries, policy.Repeats bodyWanted deliveries retries ∧
      client.call server policy read request history =
        ((deliveries retries).outcome policy read, (deliveries retries).history) := by
  intro deliveries
  let attempts (n : Nat) : Attempt α := ⟨(deliveries n).duration, read (deliveries n).reply⟩
  have course := policy.course_run attempts
  have passing (n : Nat) : policy.FailsInPassing (attempts n) ↔
      (deliveries n).IsTransient policy bodyWanted :=
    failsInPassing_iff classifies _
  obtain ⟨last, count⟩ : ∃ last, (policy.run attempts).attempts = last + 1 :=
    ⟨_, (Nat.sub_add_cancel course.some_attempt).symm⟩
  have outcome := course.outcome
  have stopped := course.stopped
  have bounded := course.bounded
  rw [count] at outcome stopped bounded
  refine ⟨last, ⟨by omega, ?_, ?_⟩, ?_⟩
  · intro n before
    exact (passing n).mp (course.repeated n (Nat.zero_le n) (by omega))
  · rw [← passing last]
    exact stopped.imp_right fun all => by omega
  · rw [call, if_pos accepted]
    change ((policy.run attempts).outcome,
      (deliveries ((policy.run attempts).attempts - 1)).history) = _
    rw [outcome, count]
    rfl

theorem Client.call_of_not_accepts (server : Server) (policy : RetryPolicy)
    (read : Reply → Except ServiceFault α) (request : ServiceRequest) (history : History)
    (refused : client.accepts request.url = false) :
    ∃ detail, client.call server policy read request history =
      (.error (.invalidUrl detail), history) := by
  refine ⟨_, if_neg ?_⟩
  rw [refused]
  exact Bool.false_ne_true

/-- A policy without retries makes one attempt. -/
theorem RetryPolicy.Repeats.eq_zero (repeats : policy.Repeats bodyWanted deliveries retries)
    (single : policy.maxRetries = 0) : retries = 0 := by
  have bounded := repeats.bounded
  rw [single] at bounded
  exact Nat.le_zero.mp bounded

/-- An attempt that would not be different another time is the last. -/
theorem RetryPolicy.Repeats.eq_last (repeats : policy.Repeats bodyWanted deliveries retries)
    (made : n ≤ retries) (final : ¬(deliveries n).IsTransient policy bodyWanted) :
    n = retries := by
  rcases Nat.eq_or_lt_of_le made with last | before
  · exact last
  · exact absurd (repeats.repeated n before) final

theorem isRetryable_of_readArtifacts {body : String} {fault : ServiceFault}
    (refused : readArtifacts body = .error fault) : fault.isRetryable = false := by
  rw [readArtifacts] at refused
  split at refused
  · obtain rfl := Except.error.inj refused
    rfl
  split at refused
  · obtain rfl := Except.error.inj refused
    rfl
  · cases refused

theorem isRetryable_of_readStored {body : String} {fault : ServiceFault}
    (refused : readStored body = .error fault) : fault.isRetryable = false := by
  rw [readStored] at refused
  split at refused
  · obtain rfl := Except.error.inj refused
    rfl
  · cases refused

theorem readArtifacts_eq_ok_iff {body : String} {artifacts : Artifacts} :
    readArtifacts body = .ok artifacts ↔
      Artifacts.ofText? body = some artifacts ∧ artifacts.glbUrl ≠ "" := by
  rw [readArtifacts]
  split
  · rename_i unread
    simp [unread]
  · rename_i found read
    simp only [read, Option.some.injEq]
    split
    · rename_i empty
      constructor
      · intro refused
        cases refused
      · rintro ⟨rfl, some_model⟩
        exact absurd (by simpa using empty) some_model
    · rename_i some_model
      constructor
      · intro accepted
        obtain rfl := Except.ok.inj accepted
        exact ⟨rfl, by simpa using some_model⟩
      · rintro ⟨rfl, -⟩
        rfl

/-- A reply that arrived as a whole. -/
def Reply.IsWhole (status : Nat) (reply : Reply) : Prop :=
  (∃ body, reply = .answered status body) ∨ ∃ shown document, reply = .encoded status shown document

/-- A whole reply whose body is read as a text. -/
def Reply.Carries (status : Nat) (body : String) (reply : Reply) : Prop :=
  reply = .answered status body ∨ ∃ shown, reply = .encoded status shown (some body)

theorem Reply.read_eq_ok_iff {decode : String → Except ServiceFault α} {reply : Reply} {value : α} :
    reply.read decode = .ok value ↔
      ∃ status body, reply.Carries status body ∧ isSuccess status = true ∧
        decode body = .ok value := by
  constructor
  · intro accepted
    cases reply with
    | answered status body =>
        by_cases success : isSuccess status = true
        · exact ⟨status, body, .inl rfl, success, (if_pos success).symm.trans accepted⟩
        · cases (if_neg success).symm.trans accepted
    | encoded status shown document =>
        by_cases success : isSuccess status = true
        · cases document with
          | none => cases (if_pos success).symm.trans accepted
          | some body =>
              exact ⟨status, body, .inr ⟨shown, rfl⟩, success, (if_pos success).symm.trans accepted⟩
        · cases (if_neg success).symm.trans accepted
    | broken status =>
        by_cases success : isSuccess status = true <;> simp [read, success] at accepted
    | lost => cases accepted
  · rintro ⟨status, body, rfl | ⟨shown, rfl⟩, success, decoded⟩
    · exact (if_pos success).trans decoded
    · exact (if_pos success).trans decoded

theorem Delivery.outcome_eq_ok_iff {delivery : Delivery} {value : α} :
    delivery.outcome policy read = .ok value ↔
      delivery.duration ≤ policy.attemptTimeout ∧ read delivery.reply = .ok value := by
  rw [outcome, RetryPolicy.effective]
  by_cases in_time : delivery.duration ≤ policy.attemptTimeout
  · rw [if_pos in_time, and_iff_right in_time]
  · rw [if_neg in_time]
    simp [in_time]

/-- An attempt yields a model if it is in time and its answer succeeds with a body that
tells the address of one. -/
theorem Delivery.outcome_readArtifacts_eq_ok_iff {delivery : Delivery} {artifacts : Artifacts} :
    delivery.outcome policy (Reply.read readArtifacts) = .ok artifacts ↔
      delivery.duration ≤ policy.attemptTimeout ∧
        ∃ status body, delivery.reply.Carries status body ∧ 200 ≤ status ∧ status ≤ 299 ∧
          Artifacts.ofText? body = some artifacts ∧ artifacts.glbUrl ≠ "" := by
  rw [outcome_eq_ok_iff, Reply.read_eq_ok_iff]
  simp only [isSuccess_iff, readArtifacts_eq_ok_iff, and_assoc]

/-- An answer that succeeds in time without telling the address of a model. -/
def Delivery.IsMeaningless (policy : RetryPolicy) (delivery : Delivery) : Prop :=
  delivery.duration ≤ policy.attemptTimeout ∧
    ∃ status, delivery.reply.IsWhole status ∧ 200 ≤ status ∧ status ≤ 299 ∧
      ∀ body artifacts, delivery.reply.Carries status body →
        Artifacts.ofText? body = some artifacts → artifacts.glbUrl = ""

/-- A body that tells no address of a model is not understood. -/
theorem exists_readArtifacts_eq_error {body : String}
    (no_model : ∀ artifacts, Artifacts.ofText? body = some artifacts → artifacts.glbUrl = "") :
    ∃ detail, readArtifacts body = .error (.deserializationFailed detail) := by
  rw [readArtifacts]
  cases read : Artifacts.ofText? body with
  | none => exact ⟨_, rfl⟩
  | some artifacts => exact ⟨_, if_pos (by simp [no_model artifacts read])⟩

/-- A meaningless answer fails for good. -/
theorem Delivery.IsMeaningless.fails {delivery : Delivery}
    (meaningless : delivery.IsMeaningless policy) :
    ¬delivery.IsTransient policy true ∧
      ∃ detail, delivery.outcome policy (Reply.read readArtifacts) =
        .error (.deserializationFailed detail) := by
  obtain ⟨in_time, status, whole, low, high, no_model⟩ := meaningless
  have success : isSuccess status = true := isSuccess_iff.mpr ⟨low, high⟩
  constructor
  · rintro (late | transient)
    · exact absurd in_time (Nat.not_le.mpr late)
    · refine not_isTroubled_of_isSuccess success ?_
      rcases whole with ⟨body, reply⟩ | ⟨shown, document, reply⟩ <;>
        rwa [reply] at transient
  · rw [outcome, RetryPolicy.effective, if_pos in_time]
    rcases whole with ⟨body, reply⟩ | ⟨shown, document, reply⟩
    · rw [reply] at no_model
      rw [reply, Reply.read, if_pos success]
      exact exists_readArtifacts_eq_error fun artifacts => no_model body artifacts (.inl rfl)
    · rw [reply] at no_model
      rw [reply]
      cases document with
      | none => exact ⟨_, if_pos success⟩
      | some body =>
          rw [Reply.read, if_pos success]
          exact exists_readArtifacts_eq_error fun artifacts =>
            no_model body artifacts (.inr ⟨shown, rfl⟩)

/-- A fault of a call: there is nothing that can be asked, or an exchange was not on time, broke
off, was refused or not understood. -/
def ServiceFault.IsOfCall : ServiceFault → Prop
  | requestFailed _ | timeout _ | httpStatus _ _ | deserializationFailed _ | invalidUrl _ => True
  | _ => False

theorem isOfCall_of_readStored {body : String} {fault : ServiceFault}
    (refused : readStored body = .error fault) : fault.IsOfCall := by
  rw [readStored] at refused
  split at refused
  · obtain rfl := Except.error.inj refused
    trivial
  · cases refused

theorem Reply.isOfCall_of_read {decode : String → Except ServiceFault α} {reply : Reply}
    {fault : ServiceFault}
    (unread : ∀ body fault, decode body = .error fault → fault.IsOfCall)
    (failed : reply.read decode = .error fault) : fault.IsOfCall := by
  cases reply with
  | answered status body =>
      rw [read] at failed
      split at failed
      · exact unread body fault failed
      · obtain rfl := Except.error.inj failed
        trivial
  | encoded status shown document =>
      cases document with
      | none =>
          rw [read] at failed
          split at failed <;>
            · obtain rfl := Except.error.inj failed
              trivial
      | some body =>
          rw [read] at failed
          split at failed
          · exact unread body fault failed
          · obtain rfl := Except.error.inj failed
            trivial
  | broken status =>
      rw [read] at failed
      split at failed <;>
        · obtain rfl := Except.error.inj failed
          trivial
  | lost =>
      obtain rfl := Except.error.inj failed
      trivial

theorem Delivery.isOfCall_of_outcome {delivery : Delivery} {fault : ServiceFault}
    (unread : ∀ reply fault, read reply = .error fault → fault.IsOfCall)
    (failed : delivery.outcome policy read = .error fault) : fault.IsOfCall := by
  rw [outcome, RetryPolicy.effective] at failed
  split at failed
  · exact unread _ fault failed
  · obtain rfl := Except.error.inj failed
    trivial

namespace RemoteAccess

/-- The access to services at two addresses with the patience that is configured. -/
def configured (generation : GenerationAccess) (store : StoreAccess)
    (generationUrl storeUrl : Url) : RemoteAccess :=
  ⟨generationUrl, generation.retryPolicy, storeUrl, store.createPolicy, store.deletePolicy⟩

variable (access : RemoteAccess) (server : Server) (history : History)

theorem course_generate (key : GenerationKey)
    (accepted : client.accepts access.generationUrl = true) :
    let deliveries :=
      client.attempt server access.generationPolicy (access.generateRequest key) history
    ∃ retries, access.generationPolicy.Repeats true deliveries retries ∧
      (access.services client server).generate key history =
        ((deliveries retries).outcome access.generationPolicy (Reply.read readArtifacts),
          (deliveries retries).history) :=
  Client.course_call (Reply.classifies_read fun _ _ => isRetryable_of_readArtifacts) server _
    (access.generateRequest key) _ accepted

theorem course_create (design : Design) (single : access.createPolicy.maxRetries = 0)
    (accepted : client.accepts access.storeUrl = true) :
    let delivery :=
      client.attempt server access.createPolicy (access.createRequest design) history 0
    (access.services client server).create design history =
      (delivery.outcome access.createPolicy (Reply.read readStored), delivery.history) := by
  intro delivery
  obtain ⟨retries, repeats, course⟩ :=
    Client.course_call (Reply.classifies_read fun _ _ => isRetryable_of_readStored) server
      access.createPolicy (access.createRequest design) history accepted
  rw [repeats.eq_zero single] at course
  exact course

/-- Storing a design fails with a fault of a call only. -/
theorem isOfCall_of_create {design : Design} {fault : ServiceFault}
    (failed : ((access.services client server).create design history).1 = .error fault) :
    fault.IsOfCall := by
  cases accepted : client.accepts access.storeUrl with
  | false =>
      obtain ⟨detail, course⟩ := Client.call_of_not_accepts server access.createPolicy
        (Reply.read readStored) (access.createRequest design) history accepted
      cases (congrArg Prod.fst course).symm.trans failed
      trivial
  | true =>
      obtain ⟨retries, -, course⟩ :=
        Client.course_call (Reply.classifies_read fun _ _ => isRetryable_of_readStored) server
          access.createPolicy (access.createRequest design) history accepted
      have outcome := (congrArg Prod.fst course).symm.trans failed
      refine Delivery.isOfCall_of_outcome (fun reply fault failed => ?_) outcome
      exact Reply.isOfCall_of_read (fun _ _ => isOfCall_of_readStored) failed

theorem course_delete {id : String} (named : id ≠ "")
    (accepted : client.accepts (access.recordUrl id) = true) :
    let deliveries :=
      client.attempt server access.deletePolicy (access.deleteRequest id) history
    ∃ retries, access.deletePolicy.Repeats false deliveries retries ∧
      (access.services client server).delete id history =
        ((deliveries retries).outcome access.deletePolicy Reply.acknowledge,
          (deliveries retries).history) := by
  intro deliveries
  obtain ⟨retries, repeats, course⟩ :=
    Client.course_call Reply.classifies_acknowledge server access.deletePolicy
      (access.deleteRequest id) history accepted
  refine ⟨retries, repeats, Eq.trans ?_ course⟩
  exact if_neg (by simpa using named)

/-- Without an id, or where it cannot be asked for, a removal sends nothing. -/
theorem delete_of_not_sent {id : String}
    (unsent : id = "" ∨ client.accepts (access.recordUrl id) = false) :
    ∃ detail, (access.services client server).delete id history =
      (.error (.invalidUrl detail), history) := by
  by_cases named : id = ""
  · exact ⟨_, if_pos (by simpa using named)⟩
  · have refused := unsent.resolve_left named
    obtain ⟨detail, course⟩ := Client.call_of_not_accepts server access.deletePolicy
      Reply.acknowledge (access.deleteRequest id) history refused
    exact ⟨detail, (if_neg (by simpa using named)).trans course⟩

end RemoteAccess

/-- What the services send, and what comes of it. A design is stored in one attempt, whatever the
answer. It goes out with one request just if the answer is late or does not send the client on.
A model takes one attempt or more, up to the retries configured, and so does the removal of a
design that has an id; all but the last may be different another time, and the last may be so
only if no retry is left. What a call comes to is the outcome of its last attempt. It is a model
only if that attempt is in time and its answer succeeds with a body that tells the address of
one; an answer that succeeds with any other body is the last and a failure. Nothing is sent to
an address to which no request can be made. An attempt is the request and those to which the
answers lead; in time, the last of their exchanges gives the reply. Where no answer names
another place, it is the request alone. -/
theorem requests_of_services (generation : GenerationAccess) (store : StoreAccess)
    (generationUrl storeUrl : Url) (client : Client) (server : Server) (history : History) :
    let access := RemoteAccess.configured generation store generationUrl storeUrl
    let services := access.services client server
    (∀ design, client.accepts storeUrl = true →
      let policy := store.createPolicy
      let request := access.createRequest design
      let delivery := client.attempt server policy request history 0
      let exchange := server (history ++ [request])
      services.create design history =
        (delivery.outcome policy (Reply.read readStored), delivery.history) ∧
      (delivery.history = history ++ [request] ↔
        policy.attemptTimeout < exchange.duration ∨ client.redirects = 0 ∨
          ∀ following, client.next request exchange ≠ .onward following)) ∧
    (∀ key, client.accepts generationUrl = true →
      let policy := generation.retryPolicy
      let deliveries := client.attempt server policy (access.generateRequest key) history
      ∃ retries,
        let last := deliveries retries
        policy.Repeats true deliveries retries ∧
        services.generate key history =
          (last.outcome policy (Reply.read readArtifacts), last.history) ∧
        (∀ artifacts, (services.generate key history).1 = .ok artifacts ↔
          last.duration ≤ policy.attemptTimeout ∧
            ∃ status body, last.reply.Carries status body ∧ 200 ≤ status ∧ status ≤ 299 ∧
              Artifacts.ofText? body = some artifacts ∧ artifacts.glbUrl ≠ "") ∧
        ∀ n ≤ retries, (deliveries n).IsMeaningless policy →
          n = retries ∧ ∃ detail,
            (services.generate key history).1 = .error (.deserializationFailed detail)) ∧
    (∀ id, id ≠ "" → client.accepts (access.recordUrl id) = true →
      let policy := store.deletePolicy
      let deliveries := client.attempt server policy (access.deleteRequest id) history
      ∃ retries, policy.Repeats false deliveries retries ∧
        services.delete id history =
          ((deliveries retries).outcome policy Reply.acknowledge,
            (deliveries retries).history)) ∧
    (client.accepts storeUrl = false → ∀ design, ∃ detail,
      services.create design history = (.error (.invalidUrl detail), history)) ∧
    (client.accepts generationUrl = false → ∀ key, ∃ detail,
      services.generate key history = (.error (.invalidUrl detail), history)) ∧
    (∀ id, id = "" ∨ client.accepts (access.recordUrl id) = false → ∃ detail,
      services.delete id history = (.error (.invalidUrl detail), history)) ∧
    (∀ policy request n, ∃ hops,
      client.Course server policy.attemptTimeout client.redirects request
        (client.before server policy request history n)
        (client.attempt server policy request history n) hops) ∧
    (server.StaysPut → ∀ policy request n,
      let exchange := server (history ++ List.replicate (n + 1) request)
      let delivery := client.attempt server policy request history n
      delivery.history = history ++ List.replicate (n + 1) request ∧
        delivery.duration = exchange.duration ∧
        (exchange.duration ≤ policy.attemptTimeout → delivery.reply = exchange.reply)) := by
  intro access services
  refine ⟨fun design accepted => ?_, fun key accepted => ?_,
    fun id named accepted => access.course_delete server history named accepted,
    fun refused design =>
      Client.call_of_not_accepts server _ _ (access.createRequest design) history refused,
    fun refused key =>
      Client.call_of_not_accepts server _ _ (access.generateRequest key) history refused,
    fun id unsent => access.delete_of_not_sent server history unsent,
    fun policy request n => client.exists_course_attempt server policy request history n,
    fun stays policy request n => client.attempt_of_staysPut stays n⟩
  · refine ⟨access.course_create server history design rfl accepted, ?_⟩
    rw [← Nat.zero_add (server _).duration]
    exact client.history_follow_eq_iff server store.createPolicy.attemptTimeout client.redirects 0
      (access.createRequest design) history
  · obtain ⟨retries, repeats, course⟩ := access.course_generate server history key accepted
    have result : (services.generate key history).1 = _ := congrArg Prod.fst course
    refine ⟨retries, repeats, course, ?_, ?_⟩
    · intro artifacts
      rw [result]
      exact Delivery.outcome_readArtifacts_eq_ok_iff
    · intro n made meaningless
      obtain ⟨final, fails⟩ := meaningless.fails
      obtain rfl := repeats.eq_last made final
      rw [result]
      exact ⟨rfl, fails⟩

/-- The configurations of a service on this machine. -/
def localCollection : Url :=
  ⟨false, [], [], .domain "localhost".toList, some 8000, ["configurations".toList], none, none⟩

/-- A server in trouble is asked once more. -/
theorem requests_of_services_in_trouble :
    let access := RemoteAccess.configured .standard .standard localCollection localCollection
    let server : Server := fun sent =>
      if sent.length = 1 then ⟨0, .answered 503 "", none⟩
      else ⟨0, .answered 200 "\x7b\"glb_url\": \"mem://shelf.glb\"\x7d", none⟩
    let key := ⟨"M1(1500,730,500)b", false⟩
    let request := access.generateRequest key
    Client.standard.accepts access.generationUrl = true ∧ server.StaysPut ∧
      (access.services .standard server).generate key [] =
        (.ok ⟨"mem://shelf.glb", none⟩, [request, request]) := by
  intro access server key request
  have stays : server.StaysPut := by
    intro sent
    change (if sent.length = 1 then _ else _ : Exchange).location = none
    split <;> rfl
  refine ⟨rfl, stays, ?_⟩
  obtain ⟨-, generated, -, -, -, -, -, plain⟩ := requests_of_services .standard .standard
    localCollection localCollection .standard server []
  obtain ⟨retries, ⟨-, repeated, stopped⟩, course, served, -⟩ := generated key rfl
  let policy := GenerationAccess.standard.retryPolicy
  obtain ⟨-, -, troubled⟩ := plain stays policy request 0
  obtain ⟨sent, duration, answered⟩ := plain stays policy request 1
  have reply := answered (by decide)
  have passing : (Client.standard.attempt server policy request [] 0).IsTransient policy true := by
    rw [Delivery.IsTransient, troubled (by decide)]
    exact .inr (.inl (by decide))
  have final : ¬(Client.standard.attempt server policy request [] 1).IsTransient policy true := by
    rw [Delivery.IsTransient, duration, reply]
    change ¬(_ < 0 ∨ (500 ≤ 200 ∨ 200 = 429))
    omega
  obtain rfl : retries = 1 := by
    rcases Nat.lt_trichotomy retries 1 with less | once | more
    · obtain rfl := Nat.lt_one_iff.mp less
      exact absurd passing (stopped.resolve_right (by decide))
    · exact once
    · exact absurd (repeated 1 more) final
  refine Prod.ext ((served ⟨"mem://shelf.glb", none⟩).mpr ⟨?_, 200, _, .inl reply, ?_⟩) ?_
  · rw [duration]
    exact Nat.zero_le _
  · exact ⟨by decide, by decide, by rfl, by decide⟩
  · exact (congrArg Prod.snd course).trans sent

/-- A design goes out a second time where the answer sends the client on with its request. -/
theorem design_sent_twice :
    let access := RemoteAccess.configured .standard .standard localCollection localCollection
    let elsewhere : Url := { localCollection with path := ["designs".toList] }
    let server : Server := fun sent =>
      if sent.length = 1 then ⟨0, .answered 307 "", some (.web elsewhere)⟩
      else ⟨0, .answered 503 "", none⟩
    let design : Design :=
      ⟨"Shelf", "M1(1500,730,500)b", .obj [], 821, "", none, none, ⟨⟨2026, 3, 1⟩, 600, 0, 0⟩⟩
    let request := access.createRequest design
    ((access.services .standard server).create design []).2 =
      [request, { request with url := elsewhere }] := by
  intro access elsewhere server design request
  rw [access.course_create server [] design rfl rfl]
  have led : Client.standard.next request (server [request]) =
      .onward { request with url := elsewhere } := rfl
  have in_time : 0 + (server [request]).duration ≤ access.createPolicy.attemptTimeout := by
    decide
  refine (congrArg Delivery.history (Client.follow_of_onward 9 in_time led)).trans ?_
  rw [Client.follow]
  rfl

end Joinery
