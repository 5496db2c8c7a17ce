import Joinery.Service.Exchange
import Mathlib.Tactic.SplitIfs

/-!
# Requests that are sent on

An answer may send the client to another place, and the answer from there to a third. Main
statement: an attempt sends the request and, as long as there is time and the client goes on,
the one that each exchange leads to; the last of these exchanges alone gives the reply. Where no
answer names another place, the request goes out once an attempt.
-/

namespace Joinery

/-- Requests that go out one after the other, each where the exchange before leads. -/
inductive Client.Leads (client : Client) (server : Server) : History → List ServiceRequest → Prop
  | last (history : History) (request : ServiceRequest) : Leads client server history [request]
  | onward {history : History} {request following : ServiceRequest} {rest : List ServiceRequest}
      (led : client.next request (server (history ++ [request])) = .onward following)
      (later : Leads client server (history ++ [request]) (following :: rest)) :
      Leads client server history (request :: following :: rest)

/-- The reply that counts if an exchange is the last. -/
def Client.replyTo (client : Client) (request : ServiceRequest) (exchange : Exchange) : Reply :=
  match client.next request exchange with
  | .final => exchange.reply
  | _ => .lost

/-- The course of one attempt: the request goes out after a history and is led on some times, as
often as is left at most. In time, the reply is that of the last exchange. -/
structure Client.Course (client : Client) (server : Server) (deadline left : Nat)
    (request : ServiceRequest) (history : History) (delivery : Delivery)
    (hops : List ServiceRequest) : Prop where
  sent : delivery.history = history ++ request :: hops
  led : client.Leads server history (request :: hops)
  bounded : hops.length ≤ left
  reply : ∀ last, (request :: hops).getLast? = some last → delivery.duration ≤ deadline →
    delivery.reply = client.replyTo last (server delivery.history)

/-- No answer names another place. -/
def Server.StaysPut (server : Server) : Prop := ∀ history, (server history).location = none

namespace Client.Course

variable {client : Client} {server : Server} {deadline left : Nat} {request : ServiceRequest}
  {history : History}

/-- The exchange with a request may be the last. -/
theorem single {duration : Nat} {reply : Reply} {delivery : Delivery}
    (same : delivery = ⟨duration, reply, history ++ [request]⟩)
    (replied : duration ≤ deadline →
      reply = client.replyTo request (server (history ++ [request]))) :
    client.Course server deadline left request history delivery [] := by
  subst same
  refine ⟨rfl, .last _ _, Nat.zero_le _, ?_⟩
  rintro last ⟨⟩ in_time
  exact replied in_time

/-- An exchange may lead to the way of another request. -/
theorem cons {following : ServiceRequest} {delivery : Delivery} {hops : List ServiceRequest}
    (led : client.next request (server (history ++ [request])) = .onward following)
    (later : client.Course server deadline left following (history ++ [request]) delivery hops) :
    client.Course server deadline (left + 1) request history delivery (following :: hops) where
  sent := by rw [later.sent, List.append_assoc, List.singleton_append]
  led := .onward led later.led
  bounded := Nat.succ_le_succ later.bounded
  reply := fun last found => later.reply last (by rwa [List.getLast?_cons_cons] at found)

end Client.Course

namespace Client

variable {client : Client} {server : Server} {policy : RetryPolicy} {request : ServiceRequest}
  {history : History}

/-- An exchange in time that leads on is followed by one with the request that it leads to. -/
theorem follow_of_onward {deadline elapsed : Nat} {following : ServiceRequest} (left : Nat)
    (in_time : elapsed + (server (history ++ [request])).duration ≤ deadline)
    (led : client.next request (server (history ++ [request])) = .onward following) :
    client.follow server deadline (left + 1) elapsed request history =
      client.follow server deadline left (elapsed + (server (history ++ [request])).duration)
        following (history ++ [request]) := by
  rw [follow, if_neg (Nat.not_lt.mpr in_time), led]

/-- An exchange is the last if it is late, nothing is left or it does not lead on, and otherwise
the request that it leads to is followed. -/
theorem follow_cases (client : Client) (server : Server) (deadline left elapsed : Nat)
    (request : ServiceRequest) (history : History) :
    let sent := history ++ [request]
    let time := elapsed + (server sent).duration
    let delivery := client.follow server deadline left elapsed request history
    ((deadline < time ∨ left = 0 ∨ ∀ next, client.next request (server sent) ≠ .onward next) ∧
      ∃ reply, delivery = ⟨time, reply, sent⟩ ∧
        (time ≤ deadline → reply = client.replyTo request (server sent))) ∨
    ∃ following less, left = less + 1 ∧ time ≤ deadline ∧
      client.next request (server sent) = .onward following ∧
      delivery = client.follow server deadline less time following sent := by
  intro sent time delivery
  have unfolded : delivery = client.follow server deadline left elapsed request history := rfl
  rw [follow] at unfolded
  by_cases late : deadline < time
  · rw [if_pos late] at unfolded
    exact .inl ⟨.inl late, _, unfolded, fun in_time => absurd late (Nat.not_lt.mpr in_time)⟩
  · rw [if_neg late] at unfolded
    rw [replyTo]
    cases step : client.next request (server sent) with
    | final =>
        rw [step] at unfolded
        exact .inl ⟨by simp, _, unfolded, fun _ => rfl⟩
    | astray =>
        rw [step] at unfolded
        exact .inl ⟨by simp, _, unfolded, fun _ => rfl⟩
    | onward following =>
        rw [step] at unfolded
        cases left with
        | zero => exact .inl ⟨by simp, _, unfolded, fun _ => rfl⟩
        | succ less => exact .inr ⟨following, less, rfl, Nat.le_of_not_lt late, rfl, unfolded⟩

/-- The way of a request has a course. -/
theorem exists_course_follow (client : Client) (server : Server) (deadline left elapsed : Nat)
    (request : ServiceRequest) (history : History) :
    ∃ hops, client.Course server deadline left request history
      (client.follow server deadline left elapsed request history) hops := by
  induction left generalizing elapsed request history with
  | zero =>
      rcases client.follow_cases server deadline 0 elapsed request history with
        ⟨-, reply, same, replied⟩ | ⟨_, _, some_left, -⟩
      · exact ⟨[], .single same replied⟩
      · cases some_left
  | succ left ih =>
      rcases client.follow_cases server deadline (left + 1) elapsed request history with
        ⟨-, reply, same, replied⟩ | ⟨following, less, some_left, -, led, same⟩
      · exact ⟨[], .single same replied⟩
      · obtain rfl := Nat.succ.inj some_left
        obtain ⟨hops, course⟩ := ih _ following (history ++ [request])
        rw [same]
        exact ⟨following :: hops, course.cons led⟩

/-- A request goes out once and no other after it just if its exchange is the last. -/
theorem history_follow_eq_iff (client : Client) (server : Server) (deadline left elapsed : Nat)
    (request : ServiceRequest) (history : History) :
    let exchange := server (history ++ [request])
    (client.follow server deadline left elapsed request history).history = history ++ [request] ↔
      deadline < elapsed + exchange.duration ∨ left = 0 ∨
        ∀ next, client.next request exchange ≠ .onward next := by
  intro exchange
  rcases client.follow_cases server deadline left elapsed request history with
    ⟨stops, reply, same, -⟩ | ⟨following, less, rfl, in_time, led, same⟩
  · rw [same]
    exact iff_of_true rfl stops
  · refine iff_of_false ?_ ?_
    · obtain ⟨hops, course⟩ := client.exists_course_follow server deadline less
        (elapsed + exchange.duration) following (history ++ [request])
      rw [same, course.sent]
      simp
    · rintro (late | none_left | stays)
      · exact absurd in_time (Nat.not_le.mpr late)
      · cases none_left
      · exact stays following led

/-- Where no answer names another place, an exchange is the last. -/
theorem follow_of_staysPut (stays : server.StaysPut) (deadline left elapsed : Nat)
    (request : ServiceRequest) (history : History) :
    let exchange := server (history ++ [request])
    let delivery := client.follow server deadline left elapsed request history
    delivery.duration = elapsed + exchange.duration ∧
      (delivery.duration ≤ deadline → delivery.reply = exchange.reply) ∧
      delivery.history = history ++ [request] := by
  intro exchange delivery
  have final : client.next request exchange = .final := by
    rw [next, stays]
    cases exchange.reply.status? <;> rfl
  rcases client.follow_cases server deadline left elapsed request history with
    ⟨-, reply, same, replied⟩ | ⟨following, _, -, -, led, -⟩
  · have same : delivery = _ := same
    rw [same]
    refine ⟨rfl, fun in_time => ?_, rfl⟩
    have counted := replied in_time
    rwa [replyTo, show client.next request (server (history ++ [request])) = .final from final]
      at counted
  · cases final.symm.trans led

/-- The requests that have gone out before the attempt with a number. -/
def before (client : Client) (server : Server) (policy : RetryPolicy) (request : ServiceRequest)
    (history : History) : Nat → History
  | 0 => history
  | n + 1 => (client.attempt server policy request history n).history

theorem attempt_eq (client : Client) (server : Server) (policy : RetryPolicy)
    (request : ServiceRequest) (history : History) (n : Nat) :
    client.attempt server policy request history n =
      client.follow server policy.attemptTimeout client.redirects 0 request
        (client.before server policy request history n) := by
  cases n <;> rfl

theorem exists_course_attempt (client : Client) (server : Server) (policy : RetryPolicy)
    (request : ServiceRequest) (history : History) (n : Nat) :
    ∃ hops, client.Course server policy.attemptTimeout client.redirects request
      (client.before server policy request history n)
      (client.attempt server policy request history n) hops := by
  rw [attempt_eq]
  exact client.exists_course_follow ..

/-- The request goes out first. -/
theorem exists_sent_attempt (client : Client) (server : Server) (policy : RetryPolicy)
    (request : ServiceRequest) (history : History) (n : Nat) :
    ∃ rest, (client.attempt server policy request history n).history =
      history ++ request :: rest := by
  induction n with
  | zero =>
      obtain ⟨hops, course⟩ := client.exists_course_attempt server policy request history 0
      exact ⟨hops, course.sent⟩
  | succ n ih =>
      obtain ⟨hops, course⟩ := client.exists_course_attempt server policy request history (n + 1)
      obtain ⟨rest, sent⟩ := ih
      refine ⟨rest ++ request :: hops, course.sent.trans ?_⟩
      rw [before, sent, List.append_assoc, List.cons_append]

theorem before_of_staysPut (stays : server.StaysPut) (n : Nat) :
    client.before server policy request history n = history ++ List.replicate n request := by
  induction n with
  | zero => exact (List.append_nil history).symm
  | succ n ih =>
      obtain ⟨-, -, sent⟩ := client.follow_of_staysPut stays policy.attemptTimeout
        client.redirects 0 request (history ++ List.replicate n request)
      rw [before, attempt_eq, ih, sent, List.append_assoc, List.replicate_succ']

/-- Where no answer names another place, each attempt sends the request and nothing else. -/
theorem attempt_of_staysPut (stays : server.StaysPut) (n : Nat) :
    let exchange := server (history ++ List.replicate (n + 1) request)
    let delivery := client.attempt server policy request history n
    delivery.history = history ++ List.replicate (n + 1) request ∧
      delivery.duration = exchange.duration ∧
      (exchange.duration ≤ policy.attemptTimeout → delivery.reply = exchange.reply) := by
  intro exchange delivery
  obtain ⟨duration, reply, sent⟩ := client.follow_of_staysPut stays policy.attemptTimeout
    client.redirects 0 request (client.before server policy request history n)
  rw [← attempt_eq, before_of_staysPut stays, List.append_assoc, ← List.replicate_succ']
    at duration reply sent
  rw [Nat.zero_add] at duration
  exact ⟨sent, duration, fun in_time => reply (by rwa [duration])⟩

end Client

end Joinery
