import ClusterApiForSlinky.CtlptlRegistry
import ClusterApiForSlinky.Execution
import ClusterApiForSlinky.RegistryCalls
import ClusterApiForSlinky.RegistryRuns
import ClusterApiForSlinky.Text
import ClusterApiForSlinky.RegistryFixpoint
import ClusterApiForSlinky.GitSync
import ClusterApiForSlinky.GitSyncRuns
import ClusterApiForSlinky.Dictionary
import ClusterApiForSlinky.MachineInventory
import ClusterApiForSlinky.InventoryGraph
import ClusterApiForSlinky.InventoryWellFormed
import ClusterApiForSlinky.InventoryMembership
import ClusterApiForSlinky.ResourceNames
import ClusterApiForSlinky.TenantCollisions
import ClusterApiForSlinky.ArtifactRegistry
import ClusterApiForSlinky.ArtifactPublishing
import ClusterApiForSlinky.ArtifactTraces
import ClusterApiForSlinky.ArtifactLifecycle
import ClusterApiForSlinky.ArtifactProvenance
import ClusterApiForSlinky.Json
import ClusterApiForSlinky.ModelCodec
import ClusterApiForSlinky.RegistrySetting
import ClusterApiForSlinky.ControlPlaneConfig
import ClusterApiForSlinky.WorkloadConfig
import ClusterApiForSlinky.ConfigHandoff
import ClusterApiForSlinky.OrderedMapping
import ClusterApiForSlinky.StackBuilds
import ClusterApiForSlinky.StackOverrides
import ClusterApiForSlinky.LocalRegistryRoutes
import ClusterApiForSlinky.StackRoutes
import ClusterApiForSlinky.CloudProviderDelete
import ClusterApiForSlinky.ResourceNameLabels
import ClusterApiForSlinky.NodePools
import ClusterApiForSlinky.AKSPoolNames
import ClusterApiForSlinky.CloudProviderKind
import ClusterApiForSlinky.AutoscalerMetadata
import ClusterApiForSlinky.InventoryOrder
import ClusterApiForSlinky.InventorySummary
import ClusterApiForSlinky.ConfigCopies
import ClusterApiForSlinky.StackMerges
import ClusterApiForSlinky.OverridePipeline
import ClusterApiForSlinky.BuildRouting
import ClusterApiForSlinky.Toml
import ClusterApiForSlinky.TomlEdits
import ClusterApiForSlinky.Shell
import ClusterApiForSlinky.RouteDocuments
import ClusterApiForSlinky.RouteRendering
import ClusterApiForSlinky.ProjectSync
import ClusterApiForSlinky.ImageReferences
import ClusterApiForSlinky.Segments
import ClusterApiForSlinky.AzureNetwork
import ClusterApiForSlinky.FractionalCarry
import ClusterApiForSlinky.LoadGenerator
import ClusterApiForSlinky.FileTree
import ClusterApiForSlinky.SdkArtifacts
import ClusterApiForSlinky.SdkReplacement
import ClusterApiForSlinky.CtlptlCluster
import ClusterApiForSlinky.ClusterCerts
import ClusterApiForSlinky.Documents
import ClusterApiForSlinky.CalicoManifest
import ClusterApiForSlinky.LineBreaks
import ClusterApiForSlinky.SdkPatch
import ClusterApiForSlinky.SdkPatchSites
import ClusterApiForSlinky.SdkPatchEdits
import ClusterApiForSlinky.SdkPatchOutput
import ClusterApiForSlinky.SdkPatchFrame
import ClusterApiForSlinky.PercentEncoding
import ClusterApiForSlinky.Urls
import ClusterApiForSlinky.GitSyncUrl
import ClusterApiForSlinky.GitSyncCoordinates
import ClusterApiForSlinky.DaemonRuns
import ClusterApiForSlinky.SdkRuns
import ClusterApiForSlinky.InnerConfig
import ClusterApiForSlinky.GitSyncUps
import ClusterApiForSlinky.ResourceUrns
import ClusterApiForSlinky.TenantUrns
import ClusterApiForSlinky.StackUrns
import ClusterApiForSlinky.MarkedStore
import ClusterApiForSlinky.RegistryPair
import ClusterApiForSlinky.FleetInventory
import ClusterApiForSlinky.Delivery
