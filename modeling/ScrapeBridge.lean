import ScrapeBridge.Bridge
import ScrapeBridge.Bus.Connection
import ScrapeBridge.Bus.Dialer
import ScrapeBridge.Bus.Endpoint
import ScrapeBridge.Bus.Handle
import ScrapeBridge.Bus.Link
import ScrapeBridge.Cache.Basic
import ScrapeBridge.Cache.Intake
import ScrapeBridge.Cache.Pool
import ScrapeBridge.Cache.Shard
import ScrapeBridge.Ceilometer.Decode
import ScrapeBridge.Ceilometer.Measurement
import ScrapeBridge.Collectd.Decode
import ScrapeBridge.Collectd.ValueList
import ScrapeBridge.Command
import ScrapeBridge.Config.Basic
import ScrapeBridge.Config.Load
import ScrapeBridge.Decimal.Scaled
import ScrapeBridge.Decimal.Shortest
import ScrapeBridge.Decimal.Text
import ScrapeBridge.Dispatch
import ScrapeBridge.Exposition.Family
import ScrapeBridge.Exposition.Host
import ScrapeBridge.Exposition.Listen
import ScrapeBridge.Exposition.Page
import ScrapeBridge.Exposition.Text
import ScrapeBridge.FanIn
import ScrapeBridge.Health
import ScrapeBridge.Json.Basic
import ScrapeBridge.Json.Reader
import ScrapeBridge.Json.Record
import ScrapeBridge.Main
import ScrapeBridge.Message
import ScrapeBridge.Name
import ScrapeBridge.Reading
import ScrapeBridge.Relay
import ScrapeBridge.Sample
import ScrapeBridge.Scrape
import ScrapeBridge.SelfMetrics
import ScrapeBridge.Table
import ScrapeBridge.Text.Blank
import ScrapeBridge.Text.Digits
import ScrapeBridge.Text.Fingerprint
import ScrapeBridge.Text.Pieces
import ScrapeBridge.Text.Quoted
import ScrapeBridge.Text.Unseen
import ScrapeBridge.Text.Utf8
import ScrapeBridge.Time.Calendar
import ScrapeBridge.Time.Duration
import ScrapeBridge.Time.Timestamp
import ScrapeBridge.Yaml.Glyph
import ScrapeBridge.Yaml.Node
import ScrapeBridge.Yaml.Reader
import ScrapeBridge.Yaml.Record
import ScrapeBridge.Yaml.Scalar
import ScrapeBridge.Yaml.Tag
import ScrapeBridge.Yaml.Token
import ScrapeBridge.Proofs.Cache.Shard
import ScrapeBridge.Proofs.Cache.Contents
import ScrapeBridge.Proofs.Cache.History
import ScrapeBridge.Proofs.Cache.Emission
import ScrapeBridge.Proofs.Cache.Retention
import ScrapeBridge.Proofs.Bus.Delivery
import ScrapeBridge.Proofs.Counters
import ScrapeBridge.Proofs.Cache.Intake
import ScrapeBridge.Proofs.Cache.Tickets
import ScrapeBridge.Proofs.Dispatch
import ScrapeBridge.Proofs.Bridge.Sound
import ScrapeBridge.Proofs.Bridge.Start
import ScrapeBridge.Proofs.Counting
import ScrapeBridge.Proofs.Bridge.Stop
import ScrapeBridge.Proofs.Bridge.Progress
import ScrapeBridge.Proofs.Cache.Ingestion
import ScrapeBridge.Proofs.Bus.Lifecycle
import ScrapeBridge.Proofs.Bus.Quota
import ScrapeBridge.Proofs.Series
import ScrapeBridge.Proofs.Ceilometer.Measurement
import ScrapeBridge.Proofs.Exposition.Grammar
import ScrapeBridge.Proofs.Exposition.Family
import ScrapeBridge.Proofs.Scrape.Families
import ScrapeBridge.Proofs.Exposition.Producer
import ScrapeBridge.Proofs.Exposition.Distinct
import ScrapeBridge.Proofs.Scrape.Hosts
import ScrapeBridge.Proofs.Bus.Pacing
import ScrapeBridge.Proofs.Cache.Identity
import ScrapeBridge.Proofs.FanIn
import ScrapeBridge.Proofs.Relay
import ScrapeBridge.Proofs.Decimal
import ScrapeBridge.Proofs.Interval
import ScrapeBridge.Proofs.Cache.Shuffle
import ScrapeBridge.Proofs.Relay.Order
import ScrapeBridge.Proofs.Bus.Shutdown
import ScrapeBridge.Proofs.Json.Record
import ScrapeBridge.Proofs.Collectd.Decode
import ScrapeBridge.Proofs.Cache.Deeds
import ScrapeBridge.Proofs.Cache.Insertion
import ScrapeBridge.Proofs.Interval.Smallest
import ScrapeBridge.Proofs.Scrape.Partition
import ScrapeBridge.Proofs.Exposition.Conversion
import ScrapeBridge.Proofs.Ceilometer.Envelope
import ScrapeBridge.Proofs.Text.Cut
import ScrapeBridge.Proofs.Bus.Endpoint
import ScrapeBridge.Proofs.Bus.Spelling
import ScrapeBridge.Proofs.Config
import ScrapeBridge.Proofs.Bus.Link
import ScrapeBridge.Proofs.Cache.Circulation
