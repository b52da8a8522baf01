import FuturesBot.Journal

/-! Broker records, acknowledgements and cursors, and the in-memory broker: one partition
whose offsets count up from 0. -/
namespace FuturesBot

open TextLines DateTimes

abbrev BrokerTopicId := DomainId
abbrev ConsumerId := DomainId
abbrev SidecarId := DomainId
abbrev BatchId := DomainId

inductive BrokerPublishStatus where
  | PUBLISHED
  | REJECTED_BROKER_UNAVAILABLE
  | REJECTED_SERIALIZATION_FAILED
  | REJECTED_TOPIC_UNAVAILABLE
  | REJECTED_INVALID_RECORD
  deriving DecidableEq, Repr

structure KafkaPartitionOffset where
  topic : BrokerTopicId
  partition : ℕ
  offset : ℕ
  deriving DecidableEq

structure KafkaPublishRecord where
  journal_record : JournalRecord
  topic : BrokerTopicId
  key : TrimmedText
  deriving DecidableEq

structure KafkaConsumedRecord where
  journal_record : JournalRecord
  topic : BrokerTopicId
  key : Option TrimmedText
  kafka_offset : KafkaPartitionOffset
  same_topic : kafka_offset.topic = topic
  deriving DecidableEq

structure BrokerConsumerCursor where
  consumer_id : ConsumerId
  kafka_offset : KafkaPartitionOffset
  last_committed_run_id : RunId
  last_committed_wal_offset : WalOffset
  last_committed_event_id : EventId
  updated_at : DateTime
  deriving DecidableEq

structure KafkaPublishAck where
  status : BrokerPublishStatus
  published : Bool
  journal_offset : WalOffset
  kafka_offset : Option KafkaPartitionOffset
  reason : Option TrimmedText
  accepted : status = .PUBLISHED → published = true ∧ kafka_offset ≠ none ∧ reason = none
  rejected : status ≠ .PUBLISHED → published = false ∧ kafka_offset = none ∧ reason ≠ none

structure InMemoryBrokerPublisher where
  published_batches : List (List KafkaPublishRecord)
  consumed_batches : List (List KafkaConsumedRecord)
  offset_counter : ℕ
  fail_next : Bool

namespace InMemoryBrokerPublisher

def empty (fail_next : Bool) : InMemoryBrokerPublisher := ⟨[], [], 0, fail_next⟩

def rejection (status : BrokerPublishStatus) (journal_offset : WalOffset) (reason : TrimmedText)
    (h : status ≠ .PUBLISHED) : KafkaPublishAck where
  status
  published := false
  journal_offset
  kafka_offset := none
  reason := some reason
  accepted hs := absurd hs h
  rejected _ := ⟨rfl, rfl, by simp⟩

/-- The record a broker hands to consumers, at an offset of its only partition. -/
def consumed (record : KafkaPublishRecord) (offset : ℕ) : KafkaConsumedRecord where
  journal_record := record.journal_record
  topic := record.topic
  key := some record.key
  kafka_offset := ⟨record.topic, 0, offset⟩
  same_topic := rfl

def consumedFrom (batch_start : ℕ) : List KafkaPublishRecord → List KafkaConsumedRecord
  | [] => []
  | record :: records => consumed record batch_start :: consumedFrom (batch_start + 1) records

def publishBatch (broker : InMemoryBrokerPublisher) (records : List KafkaPublishRecord) :
    InMemoryBrokerPublisher × KafkaPublishAck :=
  match records.getLast? with
  | none =>
    (broker, rejection .REJECTED_INVALID_RECORD ⟨0⟩ ⟨"batch must be non-empty", by decide⟩
      (by decide))
  | some last =>
    if broker.fail_next then
      ({ broker with fail_next := false },
        rejection .REJECTED_BROKER_UNAVAILABLE last.journal_record.wal_offset
          ⟨"simulated broker unavailable", by decide⟩ (by decide))
    else
      ({ broker with
          published_batches := broker.published_batches ++ [records]
          consumed_batches := broker.consumed_batches ++ [consumedFrom broker.offset_counter records]
          offset_counter := broker.offset_counter + records.length },
        { status := .PUBLISHED
          published := true
          journal_offset := last.journal_record.wal_offset
          kafka_offset := some ⟨last.topic, 0, broker.offset_counter + records.length - 1⟩
          reason := none
          accepted := fun _ => ⟨rfl, by simp, rfl⟩
          rejected := fun h => absurd rfl h })

def consumedRecords (broker : InMemoryBrokerPublisher) : List KafkaConsumedRecord :=
  broker.consumed_batches.flatten

end InMemoryBrokerPublisher

end FuturesBot
