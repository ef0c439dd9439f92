import AddressPlan.NetBox.Store
/-!
# Exchanges, step by step

An exchange over a line answers with a result or a failure and leaves a line. The equations below
take a run of exchanges apart, so that later proofs speak of requests and replies only.
-/
namespace AddressPlan.NetBox
open Http (Method)
open Json (Value Decoder)

section Binds

variable {ε ε' α β τ : Type} {x : ExceptT ε (StateM τ) α} {f : α → ExceptT ε (StateM τ) β}
  {s t : τ}

theorem run_bind (x : ExceptT ε (StateM τ) α) (f : α → ExceptT ε (StateM τ) β) (s : τ) :
    (x >>= f).run s = match x.run s with
      | (.ok a, t) => (f a).run t
      | (.error e, t) => (.error e, t) := by
  change (ExceptT.bindCont f (x s).1).run (x s).2 = _
  change _ = match x s with
    | (.ok a, t) => (f a).run t
    | (.error e, t) => (.error e, t)
  rcases x s with ⟨e | a, t⟩
  · rfl
  · rfl

theorem run_bind_of_ok {a : α} (h : x.run s = (.ok a, t)) : (x >>= f).run s = (f a).run t := by
  rw [run_bind, h]

theorem run_bind_of_error {e : ε} (h : x.run s = (.error e, t)) :
    (x >>= f).run s = (.error e, t) := by
  rw [run_bind, h]

theorem run_adapt (g : ε → ε') (x : ExceptT ε (StateM τ) α) (s : τ) :
    (ExceptT.adapt g x).run s = ((x.run s).1.mapError g, (x.run s).2) := by
  rfl

theorem run_adapt_of_ok {a : α} (g : ε → ε') (h : x.run s = (.ok a, t)) :
    (ExceptT.adapt g x).run s = (.ok a, t) := by
  rw [run_adapt, h]
  rfl

end Binds

section Calls

variable {σ α : Type} {client : Client} {remote : Remote σ} {line got : Line σ} {reply : Reply}

theorem run_errand_of_ok {exchange : Exchange σ α} {a : α} (h : exchange.run line = (.ok a, got)) :
    (errand exchange).run line = (.ok a, got) :=
  run_adapt_of_ok Failure.refusal h

theorem run_call_of_reply (decoder : Decoder α) {method : Method} {path : String}
    {body : Option Value}
    (h : (send remote (client.request method path body)).run line = (.ok reply, got)) :
    (call client remote decoder method path body).run line =
      (reply.decode decoder (method.name ++ " " ++ path), got) :=
  run_bind_of_ok h

theorem run_usable_of_ok {result : Except Failure α} {a : α} (h : result = .ok a) :
    (usable result).run line = (.ok a, line) := by
  rw [h]
  rfl

theorem run_getOptional_of_ok {decoder : Decoder α} {path : String} {a : α}
    (h : (call client remote decoder .get path none).run line = (.ok a, got)) :
    (getOptional client remote decoder path).run line = (.ok (some a), got) := by
  unfold getOptional
  simp only [ExceptT.run_mk, bind, StateT.bind, h]
  rfl

theorem run_getOptional_of_notFound {decoder : Decoder α} {path : String} {rejection : Rejection}
    (h : (call client remote decoder .get path none).run line =
      (.error (.notFound rejection), got)) :
    (getOptional client remote decoder path).run line = (.ok none, got) := by
  unfold getOptional
  simp only [ExceptT.run_mk, bind, StateT.bind, h]
  rfl

theorem run_send_of_live {request : Request} {s t : σ}
    (h : remote.exchange request s = (some reply, t)) :
    (send remote request).run ⟨s, .live⟩ = (.ok reply, ⟨t, .live⟩) := by
  have hlive : Token.live.hasFired = false := rfl
  simp only [send, ExceptT.run_mk, hlive, h]
  rfl

theorem run_send_of_silent {request : Request} {s t : σ}
    (h : remote.exchange request s = (none, t)) :
    (send remote request).run ⟨s, .live⟩ = (.error .http, ⟨t, .live⟩) := by
  have hlive : Token.live.hasFired = false := rfl
  simp only [send, ExceptT.run_mk, hlive, h]
  rfl

end Calls

section Addresses

variable (client : Client)

theorem Client.url_prefixes (rest : String) :
    client.url (prefixesPath ++ rest) = client.base ++ (prefixesPath ++ rest) := by
  have hpath : prefixesPath.toList = '/' :: prefixesPath.toList.tail := by decide
  have hhttp : "http".toList = 'h' :: "http".toList.tail := by decide
  have hstart : "http".toList.isPrefixOf (prefixesPath ++ rest).toList = false := by
    rw [String.toList_append, hpath, hhttp]
    rfl
  rw [Client.url, hstart]
  rfl

theorem Client.url_listingPath (filters : List (String × String)) :
    client.url (listingPath filters) = client.base ++ (prefixesPath ++ "?" ++
      Text.queryText ([("family", "4"), ("limit", "1000")] ++ filters)) := by
  rw [listingPath, String.append_assoc, client.url_prefixes]

end Addresses

section Replies

variable {σ α : Type} {decoder : Decoder α} {status : Nat} {body : String} {reply : Reply}

theorem decode_of_refused (hstatus : Http.isSuccess status = false) (context : String) :
    Reply.decode decoder context ⟨status, body⟩ =
      .error (.ofRejection ⟨context, status, body⟩) := by
  rw [Reply.decode, hstatus, if_neg Bool.false_ne_true]

theorem decode_of_body {result : Except Json.Fault α}
    (hstatus : Http.isSuccess status = true) (hbody : Json.decodeText decoder body = result)
    (context : String) :
    Reply.decode decoder context ⟨status, body⟩ = result.mapError fun _ => .undecodable body := by
  rw [Reply.decode, if_pos hstatus, hbody]

theorem decode_of_success {a : α} (hstatus : Http.isSuccess status = true)
    (hbody : Json.decodeText decoder body = .ok a) (context : String) :
    Reply.decode decoder context ⟨status, body⟩ = .ok a :=
  decode_of_body hstatus hbody context

theorem decode_of_notFound (context body : String) :
    Reply.decode decoder context ⟨404, body⟩ = .error (.notFound ⟨context, 404, body⟩) :=
  rfl

theorem run_ask_of_reply (decoder : Decoder α) {remote : Remote σ} {request : Request} {s t : σ}
    (h : remote.exchange request s = (some reply, t)) (context : String) :
    (ask remote decoder context request).run ⟨s, .live⟩ =
      (reply.decode decoder context, ⟨t, .live⟩) :=
  run_bind_of_ok (run_send_of_live h)

end Replies
end AddressPlan.NetBox
