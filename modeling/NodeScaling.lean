import NodeScaling.Text.Blank
import NodeScaling.Text.Quoted
import NodeScaling.Floating.Binary64
import NodeScaling.Text.Integer
import NodeScaling.Floating.Shortest
import NodeScaling.Json.Basic
import NodeScaling.Json.Printer
import NodeScaling.Json.Reader
import NodeScaling.Dictionary
import NodeScaling.Json.Record
import NodeScaling.Catalog
import NodeScaling.Node
import NodeScaling.Definition
import NodeScaling.Reply
import NodeScaling.Request
import NodeScaling.CheckedWord
import NodeScaling.Config
import NodeScaling.Settings
import NodeScaling.Talk
import NodeScaling.Client
import NodeScaling.Provider
import NodeScaling.ClusterState
import NodeScaling.Bridge
import NodeScaling.NodeGroup
import NodeScaling.FileTree
import NodeScaling.Settings.File
import NodeScaling.Yaml.Block
import NodeScaling.Yaml.Cursor
import NodeScaling.Yaml.Document
import NodeScaling.CommandLine.Arguments
import NodeScaling.CommandLine.Run
import NodeScaling.Main
import NodeScaling.Proofs.Attempts
import NodeScaling.Proofs.Sizing
import NodeScaling.Proofs.Session
import NodeScaling.Proofs.Lifecycle
import NodeScaling.Proofs.RacingIncreases
import NodeScaling.Proofs.LossyIncreases
import NodeScaling.Proofs.CanonicalMembers
import NodeScaling.Proofs.OrderedJson
import NodeScaling.Proofs.Classification
import NodeScaling.Proofs.ResponseViews
import NodeScaling.Proofs.ScalarTexts
import NodeScaling.Proofs.JsonRoundTrip
import NodeScaling.Proofs.DefinitionTexts
import NodeScaling.Proofs.RequestTexts
import NodeScaling.Proofs.KeyFlow
import NodeScaling.Proofs.SnapshotTexts
import NodeScaling.Proofs.Facade
import NodeScaling.Proofs.SettingTexts
import NodeScaling.Proofs.SettingValues
import NodeScaling.Proofs.NormalForm
import NodeScaling.Proofs.CommandPlans
import NodeScaling.Proofs.InstanceIds
import NodeScaling.Proofs.NodeRemoval
import NodeScaling.Proofs.ExactIncrease
import NodeScaling.Proofs.DefinitionMembers
import NodeScaling.Proofs.Growth
import NodeScaling.Proofs.Provisioning
import NodeScaling.Proofs.FieldwiseOverlay
import NodeScaling.Proofs.ValidSettings
import NodeScaling.Proofs.ChosenFile
import NodeScaling.Proofs.ByteOrder
import NodeScaling.Proofs.DictionaryContents
import NodeScaling.Proofs.CatalogContents
import NodeScaling.Proofs.NodeTexts
import NodeScaling.Proofs.SettingSources
import NodeScaling.Proofs.CountTexts
import NodeScaling.Proofs.FileSettings
import NodeScaling.Proofs.TypeLists
import NodeScaling.Proofs.ResourceLimits
import NodeScaling.Proofs.FailureReports
