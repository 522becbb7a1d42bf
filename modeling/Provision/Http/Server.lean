import Provision.Http.Message
import Provision.Script

/-! A scripted server stands in for the web: one host that answers, and notes what it receives. -/

namespace Provision.Http

/-- The answers that a server has left for each call, and the messages received so far. -/
structure Server where
  script : Script
  received : List Message := []

namespace Server

/-- The answer to a message; what the script does not have is not implemented. -/
def answer (server : Server) (message : Message) : Nat × List UInt8 :=
  match (server.script.next? message.key).map Script.Line.reaction with
  | some (.answer status raw) => (status, raw)
  | _ => (501, "unscripted".toUTF8.toList)

/-- The server after a message. -/
def receive (server : Server) (message : Message) : Server :=
  ⟨server.script.take message.key, server.received ++ [message]⟩

/-- Answers of these statuses have no content. -/
def hasContent (status : Nat) : Bool := status != 204 && status != 304

end Server

/-- A service where only one host answers; what cannot be sent there gets no connection. -/
def Client.remote (c : Client) (host : String) : Remote Server where
  reply request server :=
    match c.message? request with
    | some (url, message) =>
      if !url.secure && url.authority = host then
        let (status, raw) := server.answer message
        -- The body that the script has for such a status is never sent.
        let content := if Server.hasContent status then raw else []
        ⟨Response.decode request status content, 0, server.receive message⟩
      else ⟨.error (.transport s!"{message.key}: no connection"), 0, server⟩
    | none => ⟨.error (.transport s!"{request.method.text} {request.path}: no message"), 0, server⟩

end Provision.Http
