import Landmarks.CommandLine.Run
import Landmarks.Config
import Landmarks.Encoding.Basic
import Landmarks.Json.Printer
import Landmarks.Json.Reader
import Landmarks.Logging
import Landmarks.Main
import Landmarks.Overlay
import Landmarks.Proofs.FlagLaws
import Landmarks.Proofs.WellFormed
import Landmarks.Scan
import Landmarks.Service.App
import Landmarks.Settings.Hub
import Landmarks.Proofs.Operation
import Landmarks.Proofs.Publications
import Landmarks.Proofs.Subscriptions
import Landmarks.Proofs.Notification
import Landmarks.Proofs.Rounding
import Landmarks.Proofs.ShortestDecimal
import Landmarks.Proofs.Utf8
import Landmarks.Proofs.JsonScalars
import Landmarks.Proofs.JsonRoundTrip
import Landmarks.Proofs.FileTree
import Landmarks.Proofs.SettingsFile
import Landmarks.Proofs.SharedFile
import Landmarks.Proofs.CommandWords
import Landmarks.Proofs.FlagLayers
import Landmarks.Proofs.Sessions
import Landmarks.Proofs.Requests
import Landmarks.Proofs.Surfaces
import Landmarks.Proofs.Assignments
import Landmarks.Proofs.Handlers
import Landmarks.Proofs.Languages
import Landmarks.Proofs.FunctionHeads
import Landmarks.Proofs.CppFunctionHeads
import Landmarks.Proofs.CsharpFunctionHeads
import Landmarks.Proofs.CppTypeHeads
import Landmarks.Proofs.CalledRuns
import Landmarks.Proofs.FaultyScans
import Landmarks.Proofs.LineJoins
import Landmarks.Proofs.CsharpTypeHeads
import Landmarks.Proofs.SurroundingBlanks
import Landmarks.Proofs.DeclaredTypes
import Landmarks.Proofs.Banners
import Landmarks.Proofs.JsonFaults
import Landmarks.Proofs.StoredFlags
import Landmarks.Proofs.FileContents
import Landmarks.Proofs.ForeignData
import Landmarks.Proofs.FailedWrites
import Landmarks.Proofs.Changes
import Landmarks.Proofs.Registrations
import Landmarks.Proofs.FailedOpenings
import Landmarks.Proofs.CommonCollection
import Landmarks.Proofs.ListingOrder
import Landmarks.Proofs.ScannedPaths
import Landmarks.Proofs.ShortForms
import Landmarks.Proofs.FlagSections
import Landmarks.Proofs.PrintedTables
