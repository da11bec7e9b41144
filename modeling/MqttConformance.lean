import MqttConformance.Main
import MqttConformance.Proofs.Effect
import MqttConformance.Proofs.Exchange
import MqttConformance.Proofs.Hearing
import MqttConformance.Proofs.Copy
import MqttConformance.Proofs.Phases
import MqttConformance.Proofs.Course
import MqttConformance.Proofs.Order
import MqttConformance.Proofs.FirstFailure
import MqttConformance.Proofs.Percent
import MqttConformance.Proofs.ParsedPath
import MqttConformance.Proofs.Routes
import MqttConformance.Proofs.ArchivePath
import MqttConformance.Proofs.Footprint
import MqttConformance.Proofs.Session
import MqttConformance.Proofs.Stamp
import MqttConformance.Proofs.Fallible
import MqttConformance.Proofs.Quotation
import MqttConformance.Proofs.Document
import MqttConformance.Proofs.DocumentReading
import MqttConformance.Proofs.Members
import MqttConformance.Proofs.Compact
import MqttConformance.Proofs.Agreement
import MqttConformance.Proofs.Payload
import MqttConformance.Proofs.Numeral
import MqttConformance.Proofs.CommandLine
import MqttConformance.Proofs.Layers
import MqttConformance.Proofs.Steady
import MqttConformance.Proofs.Narration
import MqttConformance.Proofs.Overrides
import MqttConformance.Proofs.Certificates
import MqttConformance.Proofs.Crash
import MqttConformance.Proofs.WriterPath
import MqttConformance.Proofs.Sink
import MqttConformance.Proofs.Writing
import MqttConformance.Proofs.Archive
import MqttConformance.Proofs.Skipping
import MqttConformance.Proofs.Extraction
import MqttConformance.Proofs.Range
import MqttConformance.Proofs.Reply
import MqttConformance.Proofs.Listening
import MqttConformance.Proofs.Overlay
import MqttConformance.Proofs.Warnings
import MqttConformance.Proofs.BasePath
import MqttConformance.Proofs.RecordFormat
import MqttConformance.Proofs.Cutting
import MqttConformance.Proofs.Naming
import MqttConformance.Proofs.LogFile
import MqttConformance.Proofs.Downloads
import MqttConformance.Proofs.RequestLog
import MqttConformance.Proofs.Operations
import MqttConformance.Proofs.Unsigned
import MqttConformance.Proofs.ArchiveName
import MqttConformance.Proofs.Layout
