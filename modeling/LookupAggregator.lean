import LookupAggregator.App.Traffic
import LookupAggregator.App.Ready
import LookupAggregator.App.Origins
import LookupAggregator.Validation.Checksum
import LookupAggregator.Validation.Isrc
import LookupAggregator.Cache.Eviction
import LookupAggregator.RateLimit
import LookupAggregator.ResilientHttp.Permits
import LookupAggregator.ResilientHttp.Backoff
import LookupAggregator.ResilientHttp.Limit
import LookupAggregator.Providers.Fallback
import LookupAggregator.Providers.Variants
import LookupAggregator.Providers.Readable
import LookupAggregator.Providers.Searches
import LookupAggregator.MusicBrainz.Progress
import LookupAggregator.MusicBrainz.Answers
import LookupAggregator.MusicBrainz.Credits
import LookupAggregator.Summary.Confidence
import LookupAggregator.LookupService.Repeats
import LookupAggregator.LookupService.Failures
import LookupAggregator.LookupService.Catalogue
import LookupAggregator.LookupService.OverHttp
import LookupAggregator.MusicBrainz.Collectors
import LookupAggregator.ResilientHttp.Agree
