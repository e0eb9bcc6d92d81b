import AlertRouting.Duration
import AlertRouting.Labels
import AlertRouting.Text.Layout

/-!
# Notification policies

A policy says where the notifications of an alert go, and how they are grouped and timed.
-/
namespace AlertRouting

structure Policy where
  target : String
  sendResolved : Bool
  groupBy : NameSet
  groupWait : Duration
  groupInterval : Duration
  repeatInterval : Duration
deriving DecidableEq

namespace Policy

/-- The policy of an alert that no route matches. -/
def fallback : Policy where
  target := ""
  sendResolved := true
  groupBy := ∅
  groupWait := .ofSeconds 20
  groupInterval := .ofSeconds 300
  repeatInterval := .ofSeconds 3600

/-- The policy as shown: the target, the grouping, and the first two of its durations. -/
def text (p : Policy) : String :=
  "<RouteOptions target:" ++ Text.quote p.target ++ " group_by:" ++ p.groupBy.text
    ++ " timers:\"" ++ p.groupWait.text ++ "\"|\"" ++ p.groupInterval.text ++ "\">"

def layout (p : Policy) : Text.Layout :=
  .record "RouteOptions" [
    .field "target" (.quoted p.target),
    .field "send_resolved" (.bool p.sendResolved),
    .field "group_by" (.set (p.groupBy.names.map .quoted)),
    .field "group_wait" (.atom p.groupWait.decimalText),
    .field "group_interval" (.atom p.groupInterval.decimalText),
    .field "repeat_interval" (.atom p.repeatInterval.decimalText)]

end Policy

end AlertRouting
