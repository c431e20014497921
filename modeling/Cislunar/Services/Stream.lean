import Cislunar.Foundation.Mailbox
import Cislunar.Services.HealthPath

/-!
The websocket `/stream`, on which an operator watches samples and alerts as they are published.

Each subscription gets its messages in the order of their publication, at most once each; callbacks
of different subscriptions run in any order. Nothing on this path publishes advisories.
-/

namespace Cislunar

open Foundation

/-- The subject of a message, as its tokens. -/
def HealthMessage.subject : HealthMessage → List String
  | health _ => ["telemetry", "health"]
  | limitAlert _ => ["alerts", "limit"]
  | processed _ _ => ["telemetry", "processed"]

/-- Whether a pattern of a subscription covers a subject. -/
def covers : List String → List String → Bool
  | [">"], subject => !subject.isEmpty
  | token :: pattern, word :: subject => (token = "*" || token = word) && covers pattern subject
  | [], [] => true
  | _, _ => false

/-- The patterns that `stream` subscribes to. -/
def streamPatterns : List (List String) :=
  [["telemetry", "processed"], ["alerts", ">"], ["advisories", ">"]]

/-- The state of one call of `stream`. -/
structure StreamClient where
  /-- How many messages of the stream a subscription has behind it. -/
  behind : List String → Nat := fun _ => 0
  /-- The queue of 100 places, with what was put into it and what was sent from it. -/
  post : Post HealthMessage 100 := {}

namespace StreamClient

/-- A subscription goes on to the next message. -/
def pass (client : StreamClient) (pattern : List String) : StreamClient :=
  { client with behind := Function.update client.behind pattern (client.behind pattern + 1) }

/-- `callback`. -/
def callback (client : StreamClient) (pattern : List String) (message : HealthMessage) :
    StreamClient :=
  { client.pass pattern with post := client.post.put message }

end StreamClient

namespace HealthSystem

/-- The health path with a client that watches it. -/
structure WatchedConfig where
  config : HealthConfig
  client : StreamClient := {}

/-- The steps of the health path and of the client. -/
inductive WatchedStep (watched : WatchedConfig) : WatchedConfig → Prop where
  | system {config : HealthConfig} (step : HealthStep watched.config config) :
      WatchedStep watched { watched with config := config }
  /-- A message is not for a subscription, came before it or is lost on the way to it. -/
  | pass {pattern : List String} {message : HealthMessage}
      (next : watched.config.state.path.stream[watched.client.behind pattern]? = some message) :
      WatchedStep watched { watched with client := watched.client.pass pattern }
  | callback {pattern : List String} {message : HealthMessage}
      (subscribed : pattern ∈ streamPatterns)
      (next : watched.config.state.path.stream[watched.client.behind pattern]? = some message)
      (covered : covers pattern message.subject = true) :
      WatchedStep watched { watched with client := watched.client.callback pattern message }
  /-- The oldest message of the queue is sent. -/
  | send {message : HealthMessage} {rest : Mailbox HealthMessage 100}
      (taken : watched.client.post.box.get = some (message, rest)) :
      WatchedStep watched { watched with
        client := { watched.client with post := watched.client.post.get message rest } }

/-- Nothing has happened, and the client has just connected. -/
def WatchedConfig.initial : WatchedConfig := ⟨HealthConfig.initial, {}⟩

end HealthSystem

end Cislunar
