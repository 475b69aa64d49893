import BookingNotices.Service.Consumer
import BookingNotices.Settings.Basic

/-!
# What settings lead to

* `Settings.member` : the consumer of streams of a process, with both handlers of the service;
* `Settings.loops`  : the loops that a process runs.
-/

namespace BookingNotices.Settings

/-- The consumer of streams of a process, to which both handlers have subscribed. -/
def member (s : Settings) (process : Nat) : Stream.Member Consumer :=
  let subscribe (m : Stream.Member Consumer) (c : Consumer) : Stream.Member Consumer :=
    m.subscribe [World.topicOf c] c
  subscribe (subscribe { settings := s.channel.toStream process } .paymentCompleted) .noticeCreated

/-- The loops that a process runs: that of the consumer and that of the sweeper. -/
def loops (s : Settings) (process : Nat) : List Loop :=
  [(s.member process).loop, s.sweeping.toSweeper.loop]

end BookingNotices.Settings
