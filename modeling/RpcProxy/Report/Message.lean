import RpcProxy.Exchange.ReplyDecoder
import RpcProxy.Report.Basic
import RpcProxy.Trace

/-!
# Reports on messages and streams

Requests, responses, envelopes, spans and what is known about a stream.
-/

set_option autoImplicit false

namespace RpcProxy.Report

open Json (ofNat ofInt ofOption ofStrings)

def request (r : Request) : Json :=
  .object [("protocol", .string Wire.protocol), ("service", .string r.service),
    ("method", .string r.method), ("path", .string r.path), ("props", pairs r.properties.toList)]

def response (r : Response) : Json :=
  .object [("protocol", .string Wire.protocol), ("code", .string r.status.code.name),
    ("message", .string r.status.message), ("ok", .bool r.status.isOk),
    ("props", pairs r.properties.toList)]

/-- What is said about a message. -/
def envelope (e : Envelope) : Json :=
  .object [("method", ofOption .string e.method),
    ("seq", ofOption (fun n => ofInt n.toInt) e.sequence),
    ("type", ofOption (fun k => .string k.name) e.kind),
    ("protocol", ofOption (fun p => .string p.name) e.protocol), ("draining", .bool e.draining)]

/-- Why a reply could not be read. -/
def replyError : Option ReplyError → Json := ofOption fun e => .string e.message

def spanCall : SpanCall → Json
  | .tag name value => ofStrings ["tag", name, value]
  | .log event => ofStrings ["log", event]
  | .finish => ofStrings ["finish"]

/-- What is known about a stream. -/
def streamInfo (i : StreamInfo) : Json :=
  .object [("complete_us", ofOption (fun d => ofNat (d / micro)) i.duration),
    ("reason", ofOption (fun r => .string r.name) i.traceReason),
    ("route", ofOption .string i.route),
    ("status", ofOption (fun c => .string c.name) i.status), ("local_reply", .bool i.localReply)]

end RpcProxy.Report
