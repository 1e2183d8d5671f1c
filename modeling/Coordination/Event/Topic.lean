/-!
# Topics and channels

Four kinds of event are passed between processes. Each deployment has one channel per topic:
the deployment's tag followed by the topic's name. Main statement: within a deployment a
channel's topic can be read back from its name.
-/

namespace Coordination

/-- What an event is about. -/
inductive Topic where
  | refreshStats
  | announce
  | restrict
  | notify
deriving DecidableEq, Repr

namespace Topic

def all : List Topic := [refreshStats, announce, restrict, notify]

def name : Topic → String
  | refreshStats => "refresh_stats"
  | announce => "announce"
  | restrict => "restrict"
  | notify => "notify"

def ofName? (name : String) : Option Topic := all.find? fun topic => topic.name == name

@[simp] theorem ofName?_name (topic : Topic) : ofName? topic.name = some topic := by
  cases topic <;> rfl

theorem name_of_ofName? {name : String} {topic : Topic} (h : ofName? name = some topic) :
    topic.name = name := by
  simpa using List.find?_some h

theorem name_injective {s t : Topic} (h : s.name = t.name) : s = t := by
  have := congrArg ofName? h
  simpa using this

end Topic

/-- Processes that share a tag share their channels. -/
structure Deployment where
  tag : String := "refx:"
deriving DecidableEq, Repr

namespace Deployment

def channel (d : Deployment) (topic : Topic) : String := d.tag ++ topic.name

/-- The channels of all topics, in the order of the topics. -/
def channels (d : Deployment) : List String := Topic.all.map d.channel

/-- The topic whose channel this is, if it is one of the deployment's. -/
def topicOf? (d : Deployment) (channel : String) : Option Topic :=
  (d.tag.toList.isPrefixOf? channel.toList).bind fun rest => Topic.ofName? (String.ofList rest)

end Deployment

end Coordination
