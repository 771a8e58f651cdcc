/-!
# Sections, rule types, topics and actions

Rules are declared in three sections, one for each kind of resource, and each section has its own
rule types. Messages come with a topic and an action; a table maps them to the rule that decides.
-/

namespace AccessRules

/-- The kinds of resources that rules protect. -/
inductive Section where
  | record
  | event
  | rpc
deriving DecidableEq, Repr

/-- The permissions a rule can grant. -/
inductive RuleType where
  | create
  | read
  | write
  | delete
  | listen
  | notify
  | publish
  | subscribe
  | provide
  | request
deriving DecidableEq, Repr

/-- The topics of messages. -/
inductive Topic where
  | record
  | event
  | rpc
  | presence
deriving DecidableEq, Repr

/-- The actions of messages, over all topics. -/
inductive Action where
  | subscribe
  | subscribeAndHead
  | subscribeAndRead
  | unsubscribe
  | read
  | head
  | create
  | update
  | patch
  | notify
  | delete
  | listen
  | unlisten
  | emit
  | provide
  | unprovide
  | request
  | response
  | subscribeAll
  | query
  | queryAll
deriving DecidableEq, Repr

namespace RuleType

/-- Every rule type, in the order in which they are listed. -/
def all : List RuleType :=
  [.create, .read, .write, .delete, .listen, .notify, .publish, .subscribe, .provide, .request]

/-- The name of a rule type. -/
def name : RuleType → String
  | .create => "create"
  | .read => "read"
  | .write => "write"
  | .delete => "delete"
  | .listen => "listen"
  | .notify => "notify"
  | .publish => "publish"
  | .subscribe => "subscribe"
  | .provide => "provide"
  | .request => "request"

/-- The rule type under a name. -/
def ofName? (name : String) : Option RuleType :=
  all.find? fun ruleType => ruleType.name == name

/-- Whether rules of this type may read `data`. -/
def supportsData : RuleType → Bool
  | .write => true
  | .publish => true
  | .subscribe => true
  | .request => true
  | _ => false

/-- Whether rules of this type may read `oldData`. -/
def supportsOldData : RuleType → Bool
  | .read => true
  | .delete => true
  | .write => true
  | _ => false

end RuleType

namespace Section

/-- Every section, in the order in which they are listed. -/
def all : List Section := [.record, .event, .rpc]

/-- The name of a section. -/
def name : Section → String
  | .record => "record"
  | .event => "event"
  | .rpc => "rpc"

/-- The section under a name. -/
def ofName? (name : String) : Option Section :=
  all.find? fun kind => kind.name == name

/-- The rule types that paths in a section may declare. -/
def ruleTypes : Section → List RuleType
  | .record => [.create, .read, .write, .delete, .listen, .notify]
  | .event => [.publish, .subscribe, .listen]
  | .rpc => [.provide, .request]

/-- Whether paths in a section may declare a rule type. -/
def supports (kind : Section) (ruleType : RuleType) : Bool :=
  kind.ruleTypes.contains ruleType

end Section

namespace Topic

/-- Every topic. -/
def all : List Topic := [.record, .event, .rpc, .presence]

/-- The name of a topic. -/
def name : Topic → String
  | .record => "RECORD"
  | .event => "EVENT"
  | .rpc => "RPC"
  | .presence => "PRESENCE"

/-- The topic under a name. -/
def ofName? (name : String) : Option Topic :=
  all.find? fun topic => topic.name == name

end Topic

namespace Action

/-- Every action. -/
def all : List Action :=
  [.subscribe, .subscribeAndHead, .subscribeAndRead, .unsubscribe, .read, .head, .create, .update,
    .patch, .notify, .delete, .listen, .unlisten, .emit, .provide, .unprovide, .request, .response,
    .subscribeAll, .query, .queryAll]

/-- The name of an action. -/
def name : Action → String
  | .subscribe => "SUBSCRIBE"
  | .subscribeAndHead => "SUBSCRIBEANDHEAD"
  | .subscribeAndRead => "SUBSCRIBEANDREAD"
  | .unsubscribe => "UNSUBSCRIBE"
  | .read => "READ"
  | .head => "HEAD"
  | .create => "CREATE"
  | .update => "UPDATE"
  | .patch => "PATCH"
  | .notify => "NOTIFY"
  | .delete => "DELETE"
  | .listen => "LISTEN"
  | .unlisten => "UNLISTEN"
  | .emit => "EMIT"
  | .provide => "PROVIDE"
  | .unprovide => "UNPROVIDE"
  | .request => "REQUEST"
  | .response => "RESPONSE"
  | .subscribeAll => "SUBSCRIBE_ALL"
  | .query => "QUERY"
  | .queryAll => "QUERY_ALL"

/-- The action under a name. -/
def ofName? (name : String) : Option Action :=
  all.find? fun action => action.name == name

end Action

/-- How an action on a topic is gated. -/
inductive Gate where
  /-- A rule of this section and type decides. -/
  | rule (kind : Section) (ruleType : RuleType)
  /-- Always allowed: what only takes back or answers, and presence. -/
  | ungated
  /-- The topic has no such action. -/
  | unmapped
deriving DecidableEq, Repr

/-- The table from topics and actions to gates. -/
def gate : Topic → Action → Gate
  | .record, .subscribe => .rule .record .read
  | .record, .subscribeAndHead => .rule .record .read
  | .record, .subscribeAndRead => .rule .record .read
  | .record, .read => .rule .record .read
  | .record, .head => .rule .record .read
  | .record, .listen => .rule .record .listen
  | .record, .create => .rule .record .create
  | .record, .update => .rule .record .write
  | .record, .patch => .rule .record .write
  | .record, .notify => .rule .record .notify
  | .record, .delete => .rule .record .delete
  | .record, .unsubscribe => .ungated
  | .record, .unlisten => .ungated
  | .event, .listen => .rule .event .listen
  | .event, .subscribe => .rule .event .subscribe
  | .event, .emit => .rule .event .publish
  | .event, .unsubscribe => .ungated
  | .event, .unlisten => .ungated
  | .rpc, .provide => .rule .rpc .provide
  | .rpc, .request => .rule .rpc .request
  | .rpc, .unprovide => .ungated
  | .rpc, .response => .ungated
  | .presence, .subscribe => .ungated
  | .presence, .unsubscribe => .ungated
  | .presence, .subscribeAll => .ungated
  | .presence, .query => .ungated
  | .presence, .queryAll => .ungated
  | _, _ => .unmapped

end AccessRules
