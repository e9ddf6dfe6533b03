import TupleClient.Link

/-!
# Scripted links

A scripted link answers the first request with the first of its replies, the second with the
second, and so on; when the replies are used up it answers every request with an empty success. It
records the requests. A scripted reply may take its time, may never come, and may cancel the
caller's token while its call is served.

## Main definitions

* `ScriptedReply`, `Script` — the replies to come and the requests recorded
* `Script.link` — the link that plays a script
-/

namespace TupleClient

/-- A reply and how it comes. -/
structure ScriptedReply where
  reply : Reply
  /-- The caller's token is cancelled while the call is served. -/
  cancels : Bool := false
  /-- The reply is not there when the caller first looks. -/
  waits : Bool := false
  /-- The reply never comes. -/
  hangs : Bool := false

/-- The replies to come, and the requests recorded, last one first. -/
structure Script where
  replies : List ScriptedReply
  recorded : List Request := []

namespace Script

/-- The reply when the script is used up: success with an empty object. -/
def exhausted : ScriptedReply := { reply := .response { status := 200, body := .obj [] } }

/-- The script after one more request. -/
def next (s : Script) (request : Request) : Script :=
  ⟨s.replies.tail, request :: s.recorded⟩

/-- The link that plays a script. A call that hangs ends only by being abandoned. -/
def link : Link Script := fun watch request w =>
  let entry := w.far.replies.headD exhausted
  let served : World Script :=
    { w with far := w.far.next request, cancelled := w.cancelled || entry.cancels }
  if entry.hangs then (.abandoned, served)
  else if entry.waits && served.isStopped watch then (.abandoned, served)
  else (.answered entry.reply, served)

/-- The requests recorded, first one first. -/
def requests (s : Script) : List Request := s.recorded.reverse

/-- The script with its record cleared. -/
def drained (s : Script) : Script := { s with recorded := [] }

end Script

end TupleClient
